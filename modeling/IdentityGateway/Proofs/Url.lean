import Mathlib.Data.Bool.AllAny
import Mathlib.Data.List.DropRight
import Mathlib.Data.List.TakeWhile
import IdentityGateway.Proofs.Text.Case
import IdentityGateway.Proofs.Text.Separator
import IdentityGateway.Url

/-!
# Addresses with another path

An address without a query and a fragment is a front, an authority and a path. With another path in
the place of its own it is an address of the same server. A path without anything to escape and
without dot segments is its own normal form.
-/

namespace IdentityGateway.Url

/-- Whether a character belongs to an authority. -/
def inAuthority (c : Char) : Bool :=
  !(isSlash c || c == '?' || c == '#')

/-- Whether a character belongs to a path. -/
def inPath (c : Char) : Bool :=
  c != '?' && c != '#'

/-- Characters are an authority and the path behind it. -/
structure Plain (authority path : List Char) : Prop where
  ne_nil : authority ≠ []
  inAuthority : ∀ c ∈ authority, inAuthority c = true
  inPath : ∀ c ∈ path, inPath c = true
  slash : ∀ c ∈ path.head?, isSlash c = true

/-- The address with an authority and a path. -/
def plain? (scheme : String) (authority path : List Char) : Option Url := do
  let (host, digits) := hostAndPort (withoutUser authority)
  let host ← normalHost? host
  let port ← port? scheme digits
  return { scheme, host, port, path := normalPath path, query := none, fragment := none }

section

variable {slashes authority path kept more cs : List Char} {scheme s : String} {url : Url}

/-! ## Authority and path -/

/-- The part of a list behind the first elements with a property. -/
theorem drop_length_takeWhile {α : Type} (p : α → Bool) (as : List α) :
    as.drop (as.takeWhile p).length = as.dropWhile p := by
  conv_lhs => arg 2; rw [← List.takeWhile_append_dropWhile (p := p) (l := as)]
  exact List.drop_left

/-- The first element behind those with a property does not have it. -/
theorem not_of_dropWhile_eq_cons {α : Type} {p : α → Bool} {as rest : List α} {a : α}
    (h : as.dropWhile p = a :: rest) : p a = false := by
  have hhead := List.head?_dropWhile_not p as
  rw [h] at hhead
  exact hhead

private theorem Plain.dropWhile_eq (h : Plain authority path)
    (hslashes : ∀ c ∈ slashes, isSlash c = true) :
    (slashes ++ (authority ++ path)).dropWhile isSlash = authority ++ path := by
  rw [List.dropWhile_append_of_pos hslashes]
  cases authority with
  | nil => exact absurd rfl h.ne_nil
  | cons c rest =>
    have hinside := h.inAuthority c List.mem_cons_self
    simp only [Url.inAuthority, Bool.not_eq_true', Bool.or_eq_false_iff] at hinside
    exact List.dropWhile_cons_of_neg (Bool.eq_false_iff.mp hinside.1.1)

/-- A path does not belong to the authority before it. -/
theorem Plain.takeWhile_eq (h : Plain authority path) :
    (authority ++ path).takeWhile Url.inAuthority = authority := by
  have hpath : path.takeWhile Url.inAuthority = [] := by
    cases path with
    | nil => rfl
    | cons c rest =>
      have hslash : isSlash c = true := h.slash c rfl
      exact List.takeWhile_cons_of_neg (by simp [Url.inAuthority, hslash])
  rw [List.takeWhile_append_of_pos h.inAuthority, hpath, List.append_nil]

/-- An address after its scheme, in which there is neither a query nor a fragment. -/
theorem afterScheme?_eq (hslashes : ∀ c ∈ slashes, isSlash c = true) (h : Plain authority path) :
    afterScheme? scheme (slashes ++ (authority ++ path)) = plain? scheme authority path := by
  have hauthority := h.takeWhile_eq
  have hpath : path.takeWhile Url.inPath = path := List.takeWhile_eq_self_iff.mpr h.inPath
  unfold Url.inAuthority at hauthority
  unfold Url.inPath at hpath
  simp only [afterScheme?, h.dropWhile_eq hslashes, hauthority, List.drop_left, hpath,
    List.drop_length, List.dropWhile_nil]
  rfl

private theorem normalHost?_nil : normalHost? [] = none := by decide +kernel

/-- Without a query and a fragment nothing comes behind the path. -/
theorem dropWhile_inPath_eq_nil (h : afterScheme? scheme cs = some url) (hquery : url.query = none)
    (hfragment : url.fragment = none) :
    ((cs.dropWhile isSlash).dropWhile Url.inAuthority).dropWhile Url.inPath = [] := by
  simp only [afterScheme?, drop_length_takeWhile, Option.bind_eq_bind, Option.bind_eq_some_iff,
    Option.pure_def, Option.some.injEq] at h
  obtain ⟨host, -, port, -, rfl⟩ := h
  replace hquery := Option.map_eq_none_iff.mp hquery
  replace hfragment := Option.map_eq_none_iff.mp hfragment
  cases hend : ((cs.dropWhile isSlash).dropWhile Url.inAuthority).dropWhile Url.inPath with
  | nil => rfl
  | cons c rest =>
    -- what ends a path begins a query or a fragment
    have hc := not_of_dropWhile_eq_cons hend
    simp only [Url.inPath, Bool.and_eq_false_iff, bne_eq_false_iff_eq] at hc
    unfold Url.inPath Url.inAuthority at hend
    rw [hend] at hquery hfragment
    rcases hc with rfl | rfl
    · cases hquery
    · rw [List.dropWhile_cons_of_neg (by decide)] at hfragment
      cases hfragment

/-- An address after its scheme in which there is neither a query nor a fragment is slashes, an
authority and a path. -/
theorem exists_plain (h : afterScheme? scheme cs = some url) (hquery : url.query = none)
    (hfragment : url.fragment = none) :
    ∃ slashes authority path, cs = slashes ++ (authority ++ path) ∧
      (∀ c ∈ slashes, isSlash c = true) ∧ Plain authority path := by
  let behind := cs.dropWhile isSlash
  let tail := behind.dropWhile Url.inAuthority
  have hpath : ∀ c ∈ tail, Url.inPath c = true :=
    List.dropWhile_eq_nil_iff.mp (dropWhile_inPath_eq_nil h hquery hfragment)
  simp only [afterScheme?, Option.bind_eq_bind, Option.bind_eq_some_iff] at h
  obtain ⟨host, hhost, -⟩ := h
  refine ⟨cs.takeWhile isSlash, behind.takeWhile Url.inAuthority, tail, ?_, ?_, ?_, ?_, ?_, ?_⟩
  · rw [List.takeWhile_append_dropWhile, List.takeWhile_append_dropWhile]
  · exact fun c hc => List.mem_takeWhile_imp hc
  · intro hempty
    change normalHost? (hostAndPort (withoutUser (behind.takeWhile Url.inAuthority))).1 = _ at hhost
    rw [hempty] at hhost
    cases normalHost?_nil.symm.trans hhost
  · exact fun c hc => List.mem_takeWhile_imp hc
  · exact hpath
  · intro c hc
    obtain ⟨rest, hrest⟩ := List.head?_eq_some_iff.mp hc
    have hends := not_of_dropWhile_eq_cons hrest
    have hc' := hpath c (List.mem_of_mem_head? hc)
    simp only [Url.inAuthority, Bool.not_eq_false', Bool.or_eq_true, beq_iff_eq] at hends
    simp only [Url.inPath, Bool.and_eq_true, bne_iff_ne] at hc'
    rcases hends with (hslash | hquestion) | hhash
    · exact hslash
    · exact absurd hquestion hc'.1
    · exact absurd hhash hc'.2

/-- The address with another path. -/
theorem plain?_of_path (h : plain? scheme authority path = some url) (other : List Char) :
    plain? scheme authority other = some { url with path := normalPath other } := by
  simp only [plain?, Option.bind_eq_bind, Option.bind_eq_some_iff, Option.pure_def,
    Option.some.injEq] at h ⊢
  obtain ⟨host, hhost, port, hport, rfl⟩ := h
  exact ⟨host, hhost, port, hport, rfl⟩

/-- The front of a path may be kept with something more behind it. -/
theorem Plain.keeping (h : Plain authority path) (hkept : kept <+: path)
    (hmore : ∀ c ∈ more, Url.inPath c = true) (hslash : more.head? = some '/') :
    Plain authority (kept ++ more) := by
  refine ⟨h.ne_nil, h.inAuthority, ?_, ?_⟩
  · intro c hc
    rcases List.mem_append.mp hc with hc | hc
    · exact h.inPath c (hkept.subset hc)
    · exact hmore c hc
  · intro c hc
    cases kept with
    | nil =>
      rw [List.nil_append, hslash] at hc
      obtain rfl := Option.some.inj hc
      rfl
    | cons d rest =>
      obtain ⟨behind, rfl⟩ := hkept
      exact h.slash c hc

/-! ## Texts -/

/-- No blanks and controls are in a text. -/
def IsClean (cs : List Char) : Prop :=
  ∀ c ∈ cs, 0x20 < c.toNat

instance (cs : List Char) : Decidable (IsClean cs) :=
  decidable_of_iff _ List.all_iff_forall_prop

/-- Nothing is cleaned away where there is nothing to clean. -/
theorem cleaned_eq (h : IsClean s.toList) : cleaned s = s.toList := by
  have hkeep : ∀ {cs : List Char}, IsClean cs →
      cs.dropWhile (fun c => decide (c.toNat ≤ 0x20)) = cs := by
    intro cs hcs
    cases cs with
    | nil => rfl
    | cons c rest =>
      have hc : 0x20 < c.toNat := hcs c List.mem_cons_self
      exact List.dropWhile_cons_of_neg (by simpa using hc)
  have hreverse : IsClean s.toList.reverse := fun c hc => h c (List.mem_reverse.mp hc)
  rw [cleaned, hkeep h, hkeep hreverse, List.reverse_reverse, List.filter_eq_self]
  intro c hc
  have hc' : 0x20 < c.toNat := h c hc
  simp only [Bool.and_eq_true, bne_iff_ne]
  refine ⟨⟨?_, ?_⟩, ?_⟩ <;> rintro rfl <;> exact absurd hc' (by decide)

/-- A scheme of web addresses, and its name in any case. -/
structure IsScheme (name : List Char) (scheme : String) : Prop where
  name : name.map Char.toLower = scheme.toList
  web : scheme = "http" ∨ scheme = "https"

private theorem IsScheme.ne_colon {name : List Char} (h : IsScheme name scheme) :
    ∀ c ∈ name, (c != ':') = true := by
  intro c hc
  have hlower : c.toLower ∈ scheme.toList := h.name ▸ List.mem_map_of_mem hc
  rw [bne_iff_ne]
  rintro rfl
  rcases h.web with rfl | rfl <;> exact absurd hlower (by decide)

/-- An address with the name of a scheme, a colon and more. -/
theorem ofText?_eq {name : List Char} (hscheme : IsScheme name scheme)
    (hclean : IsClean (name ++ ':' :: cs)) :
    ofText? (String.ofList (name ++ ':' :: cs)) = afterScheme? scheme cs := by
  have htext : cleaned (String.ofList (name ++ ':' :: cs)) = name ++ ':' :: cs := by
    rw [cleaned_eq (by rwa [String.toList_ofList]), String.toList_ofList]
  have hname : (name ++ ':' :: cs).takeWhile (· != ':') = name := by
    rw [List.takeWhile_append_of_pos hscheme.ne_colon, List.takeWhile_cons_of_neg (by decide),
      List.append_nil]
  have hdrop : (name ++ ':' :: cs).drop (scheme.toList.length + 1) = cs := by
    rw [← hscheme.name, List.length_map, List.drop_length_add_append, List.drop_one,
      List.tail_cons]
  simp only [ofText?, htext, hname, hscheme.name, hdrop]
  rcases hscheme.web with rfl | rfl
  · exact if_pos rfl
  · rw [if_neg (by decide)]
    exact if_pos rfl

/-- An address is the name of a scheme, a colon and more, or there is nothing after the name. -/
theorem exists_scheme (h : ofText? s = some url) (hclean : IsClean s.toList) :
    ∃ name scheme cs, IsScheme name scheme ∧ afterScheme? scheme cs = some url ∧
      (s.toList = name ++ ':' :: cs ∨ cs = []) := by
  have hmore : s.toList.drop ((s.toList.takeWhile (· != ':')).length + 1) =
      (s.toList.dropWhile (· != ':')).tail := by
    rw [← List.drop_drop, drop_length_takeWhile, List.drop_one]
  have hparts : s.toList = s.toList.takeWhile (· != ':') ++
      ':' :: (s.toList.dropWhile (· != ':')).tail ∨ (s.toList.dropWhile (· != ':')).tail = [] := by
    cases hbehind : s.toList.dropWhile (· != ':') with
    | nil => exact .inr rfl
    | cons c rest =>
      have hends := not_of_dropWhile_eq_cons hbehind
      obtain rfl := bne_eq_false_iff_eq.mp hends
      left
      rw [List.tail_cons, ← hbehind, List.takeWhile_append_dropWhile]
  simp only [ofText?, cleaned_eq hclean, List.length_map, hmore] at h
  split at h
  · next hname => exact ⟨_, "http", _, ⟨hname, .inl rfl⟩, h, hparts⟩
  · split at h
    · next hname => exact ⟨_, "https", _, ⟨hname, .inr rfl⟩, h, hparts⟩
    · cases h

/-- **Addresses with another path.** An address without a query and a fragment is a front, an
authority and a path, in the place of which another path may be put. -/
theorem exists_front (h : ofText? s = some url) (hclean : IsClean s.toList)
    (hquery : url.query = none) (hfragment : url.fragment = none) :
    ∃ front authority path, s.toList = front ++ (authority ++ path) ∧ Plain authority path ∧
      ∀ other, Plain authority other → IsClean other →
        ofText? (String.ofList (front ++ (authority ++ other))) =
          some { url with path := normalPath other } := by
  obtain ⟨name, scheme, cs, hscheme, hafter, hparts⟩ := exists_scheme h hclean
  obtain ⟨slashes, authority, path, rfl, hslashes, hplain⟩ := exists_plain hafter hquery hfragment
  have htext : s.toList = name ++ ':' :: (slashes ++ (authority ++ path)) := by
    rcases hparts with htext | hnone
    · exact htext
    · exact absurd (List.append_eq_nil_iff.mp (List.append_eq_nil_iff.mp hnone).2).1 hplain.ne_nil
  rw [htext] at hclean
  rw [afterScheme?_eq hslashes hplain] at hafter
  refine ⟨name ++ ':' :: slashes, authority, path, ?_, hplain, ?_⟩
  · rw [htext, List.append_assoc, List.cons_append]
  · intro other hother hclean'
    have hall : IsClean (name ++ ':' :: (slashes ++ (authority ++ other))) := by
      simp only [IsClean, List.forall_mem_append, List.forall_mem_cons] at hclean ⊢
      exact ⟨hclean.1, hclean.2.1, hclean.2.2.1, hclean.2.2.2.1, hclean'⟩
    rw [List.append_assoc, List.cons_append, ofText?_eq hscheme hall,
      afterScheme?_eq hslashes hother]
    exact plain?_of_path hafter other

/-! ## Paths in normal form -/

/-- Pieces with the separator before each of them are the text they were split from. -/
theorem flatMap_splitAt (separator : Char) (cs : List Char) :
    (Text.splitAt separator cs).flatMap (fun piece => separator :: piece) = separator :: cs := by
  induction cs with
  | nil => rfl
  | cons c cs ih =>
    simp only [Text.splitAt]
    split
    · next hc => rw [List.flatMap_cons, ih, hc, List.singleton_append]
    · cases hpieces : Text.splitAt separator cs with
      | nil =>
        rw [hpieces] at ih
        cases ih
      | cons piece pieces =>
        rw [hpieces, List.flatMap_cons, List.cons_append, List.cons_inj_right] at ih
        rw [List.flatMap_cons, List.cons_append, List.cons_append, ih]

/-- A segment that does not begin with a dot or an escape is no dot segment. -/
theorem isDot_eq_false {c : Char} (hdot : c ≠ '.') (hescape : c ≠ '%') (cs : List Char) :
    isSingleDot (c :: cs) = false ∧ isDoubleDot (c :: cs) = false := by
  have hdot' : c.toLower ≠ '.' := fun h => hdot ((Text.toLower_eq_iff (by decide) c).mp h)
  have hescape' : c.toLower ≠ '%' := fun h => hescape ((Text.toLower_eq_iff (by decide) c).mp h)
  constructor <;> simp [isSingleDot, isDoubleDot, hdot', hescape']

/-- Segments that are no dot segments stay. -/
theorem settledSegments_eq {segments : List (List Char)}
    (h : ∀ segment ∈ segments, isSingleDot segment = false ∧ isDoubleDot segment = false)
    (earlier : List (List Char)) :
    settledSegments earlier segments = earlier.reverse ++ segments := by
  induction segments generalizing earlier with
  | nil => rw [settledSegments, List.append_nil]
  | cons segment rest ih =>
    obtain ⟨⟨hsingle, hdouble⟩, hrest⟩ := List.forall_mem_cons.mp h
    cases rest with
    | nil => simp [settledSegments, hsingle, hdouble]
    | cons next rest =>
      rw [settledSegments, hsingle, hdouble, if_neg Bool.false_ne_true, if_neg Bool.false_ne_true,
        ih hrest, List.reverse_cons, List.append_assoc, List.singleton_append]
      nofun

/-- A text of safe characters needs no escapes. -/
theorem escaped_eq {safe : Char → Bool} (h : ∀ c ∈ cs, safe c = true) : escaped safe cs = cs := by
  induction cs with
  | nil => rfl
  | cons c cs ih =>
    obtain ⟨hc, hcs⟩ := List.forall_mem_cons.mp h
    rw [escaped, List.flatMap_cons, if_pos hc, ← escaped, ih hcs, List.singleton_append]

/-- A path of safe characters without dot segments is in normal form. -/
theorem normalPath_eq (hsafe : ∀ c ∈ cs, pathSafe c = true ∧ c ≠ '\\')
    (hdots : ∀ segment ∈ Text.splitAt '/' cs,
      isSingleDot segment = false ∧ isDoubleDot segment = false) :
    normalPath ('/' :: cs) = '/' :: cs := by
  have hslash : ∀ c ∈ cs, (if isSlash c then '/' else c) = c := by
    intro c hc
    split
    · next hslash =>
      rw [isSlash, Bool.or_eq_true, beq_iff_eq, beq_iff_eq] at hslash
      exact (hslash.resolve_right (hsafe c hc).2).symm
    · rfl
  have hslashed : ('/' :: cs).map (fun c => if isSlash c then '/' else c) = '/' :: cs := by
    rw [List.map_cons, if_pos (by decide), List.map_congr_left hslash, List.map_id']
  have hescaped : ∀ segment ∈ Text.splitAt '/' cs, escaped pathSafe segment = segment :=
    fun segment hsegment =>
      escaped_eq fun c hc => (hsafe c (Text.subset_of_mem_splitAt hsegment hc)).1
  simp only [normalPath, hslashed, List.drop_one, List.tail_cons, settledSegments_eq hdots,
    List.reverse_nil, List.nil_append]
  rw [List.flatMap_congr fun segment hsegment => by rw [hescaped segment hsegment],
    flatMap_splitAt]

/-- The text of an address is at least as long as the path. -/
theorem length_path_le (url : Url) : url.path.length ≤ url.text.length := by
  rw [text, String.length_ofList]
  simp only [List.length_append]
  omega

end

end IdentityGateway.Url
