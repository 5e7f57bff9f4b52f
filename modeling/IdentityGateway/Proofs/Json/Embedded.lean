import IdentityGateway.Json.Embedded
import IdentityGateway.Proofs.Json.Parsing

/-!
# The values of embedded texts

A text that stands in another one is shorter than it, so the budget of a reader of such texts is
never used up, and each is read just as it would be by itself. Wherever no text is embedded, keys
mean nothing to this reader: it gives what any other gives.
-/

namespace IdentityGateway.Json

open Byte

/-- A text of an object that gives an embedded text and nothing else. -/
def EmbeddedText (text : List UInt8) : Prop :=
  ∃ source, ObjectText text [(embeddedKey, source)]

section

variable {bs rest source out mark bytes : List UInt8} {s : String} {v : Value} {n levels : Nat}
  {steps steps' : Budget} {first : Bool}

/-! ## The length of an embedded text -/

/-- What an escape stands for is no longer than the escape. -/
theorem Escape.length_le (h : Escape mark bytes) : bytes.length ≤ mark.length := by
  have hchar : ∀ n, (codePointBytes n).length ≤ 4 := by
    intro n
    rw [codePointBytes, String.length_utf8EncodeChar]
    exact Char.utf8Size_le_four _
  cases h with
  | number hdigits _ =>
    cases hdigits
    exact Nat.le_succ_of_le (hchar _)
  | pair hfirst _ hsecond _ =>
    cases hfirst
    cases hsecond
    exact Nat.le_trans (hchar _) (by simp)
  | _ => exact Nat.le_refl _

/-- What stands for bytes is no shorter than they are. -/
theorem StandsFor.length_le (h : StandsFor source out) : out.length ≤ source.length := by
  induction h with
  | nil => exact Nat.le_refl _
  | plain _ _ ih => exact Nat.succ_le_succ ih
  | escape hmark _ ih =>
    have hle := hmark.length_le
    simp only [List.length_cons, List.length_append]
    omega

/-- A string that is read is spelled between its quotes. -/
theorem exists_source_of_token (h : token bs = .ok (.string s, rest)) :
    ∃ before source, bs = before ++ (quote :: (source ++ [quote]) ++ rest) ∧ AllBlank before ∧
      Spells source s := by
  have hread : Codec.string.fromText 0 bs = .ok (.ok s, rest) := by
    simp only [Codec.string, Codec.ofToken, h]
  obtain ⟨before, text, v, hbs, hbefore, hwrites, hvalue⟩ := Codec.byScalar_string.sound hread
  obtain rfl := Codec.fromValue_string_iff.mp hvalue
  cases hwrites with
  | string hsource => exact ⟨before, _, hbs, hbefore, hsource⟩

/-- The text of a string that is read is shorter than the bytes it is read from. -/
theorem length_lt_of_token (h : token bs = .ok (.string s, rest)) :
    s.toUTF8.toList.length < bs.length := by
  obtain ⟨before, source, rfl, -, hsource⟩ := exists_source_of_token h
  have hle := StandsFor.length_le hsource
  rw [Text.toList_toUTF8]
  simp only [List.length_append, List.length_cons]
  omega

/-! ## What is read -/

/-- An embedded text is found behind its key. -/
theorem exists_key_of_afterEmbeddedKey? (h : afterEmbeddedKey? bs = some rest) :
    ∃ gap source, bs = gap ++ (quote :: (source ++ quote :: rest)) ∧ Gap true gap ∧
      Spells source embeddedKey := by
  unfold afterEmbeddedKey? at h
  split at h
  · next hkey =>
    obtain ⟨gap, rfl, hgap⟩ := exists_gap_of_nextKey hkey
    split at h
    · next hstring =>
      obtain ⟨source, rfl, hsource⟩ := string_eq_ok_iff.mp hstring
      split at h
      · next heq =>
        obtain rfl := Option.some.inj h
        exact ⟨gap, source, rfl, hgap, heq ▸ hsource⟩
      · cases h
    · cases h
  · cases h

/-- What is read as an object after its mark is a value with its text, or the object gives an
embedded text. -/
theorem exists_parsedUntyped {text : List UInt8 → Except Fault Value} {item : Reader Value}
    (hitem : ReadsParsed EmbeddedText item) (h : untypedObject text item bs = .ok (v, rest)) :
    ∃ text, openObject :: bs = text ++ rest ∧ Parsed EmbeddedText text v := by
  unfold untypedObject at h
  split at h
  case h_2 => exact exists_parsedObject hitem h
  next afterKey hkey =>
  obtain ⟨gap, source, rfl, hgap, hsource⟩ := exists_key_of_afterEmbeddedKey? hkey
  unfold embeddedValue at h
  split at h
  · cases h
  next afterMark hcolon =>
  obtain ⟨before, rfl, hbefore⟩ := afterColon_eq_ok_iff.mp hcolon
  split at h
  · cases h
  · next s afterText htoken =>
    obtain ⟨behind, spelled, rfl, hbehind, hspelled⟩ := exists_source_of_token htoken
    split at h
    · cases h
    obtain ⟨-, hclose⟩ := of_closed_eq_ok h
    obtain ⟨last, rfl, hlast⟩ := exists_end_of_closeMembers hclose
    have hmember : MemberText Spells (embeddedKey, quote :: (spelled ++ [quote])) _ :=
      .parts hsource hbefore hbehind
    have hform : ValueForm (quote :: (spelled ++ [quote])) :=
      .scalar (.string hspelled.stringForm)
    have htext := ObjectText.members (.cons hgap hmember (.done hlast))
      (List.forall_mem_singleton.mpr hform)
    exact ⟨_, by simp, .apart htext.valueForm ⟨_, htext⟩⟩
  · cases h

/-- Whatever is read as a value has a text that is read as it, unless this is an embedded text. -/
theorem readsParsed_untyped (text : List UInt8 → Except Fault Value) (levels : Nat) :
    ReadsParsed EmbeddedText (valueBy (untypedObject text) levels) :=
  readsParsed_valueBy (fun _ hitem => exists_parsedUntyped hitem) levels

/-! ## The budget -/

/-- Two readers that read the same from bytes that are not longer than `n`. -/
def SameUpTo (n : Nat) (item item' : Reader Value) : Prop :=
  ∀ bs, bs.length ≤ n → item bs = item' bs

/-- What a reader leaves is not longer than what it was given. -/
theorem ReadsParsed.length_le {Apart : List UInt8 → Prop} {item : Reader Value}
    (hitem : ReadsParsed Apart item) (h : item bs = .ok (v, rest)) : rest.length ≤ bs.length := by
  obtain ⟨before, text, rfl, -, -⟩ := hitem h
  simp only [List.length_append]
  omega

/-- Lists are read alike by readers that read their elements alike. -/
theorem items_congr {Apart : List UInt8 → Prop} {item item' : Reader Value}
    (hitem : ReadsParsed Apart item) (hsame : SameUpTo n item item') {acc : List Value}
    (hbs : bs.length ≤ n) : items item first acc steps bs = items item' first acc steps bs := by
  induction steps generalizing first acc bs with
  | nil => rfl
  | cons step steps ih =>
    rw [items, items]
    split
    · rfl
    · rfl
    next afterGap hnext =>
    obtain ⟨gap, rfl, -⟩ := exists_gap_of_nextItem hnext
    rw [List.length_append] at hbs
    rw [← hsame afterGap (by omega)]
    split
    · rfl
    next hread =>
    have hle := hitem.length_le hread
    exact ih (by omega)

/-- Objects are read alike by readers that read their members alike. -/
theorem members_congr {Apart : List UInt8 → Prop} {item item' : Reader Value}
    (hitem : ReadsParsed Apart item) (hsame : SameUpTo n item item') {acc : List (String × Value)}
    (hbs : bs.length ≤ n) : members item first acc steps bs = members item' first acc steps bs := by
  induction steps generalizing first acc bs with
  | nil => rfl
  | cons step steps ih =>
    rw [members, members]
    split
    · rfl
    · rfl
    next afterGap hnext =>
    obtain ⟨gap, rfl, -⟩ := exists_gap_of_nextKey hnext
    split
    · rfl
    next hstring =>
    obtain ⟨source, rfl, -⟩ := string_eq_ok_iff.mp hstring
    split
    · rfl
    next afterMark hcolon =>
    obtain ⟨before, rfl, -⟩ := afterColon_eq_ok_iff.mp hcolon
    simp only [List.length_append, List.length_cons] at hbs
    rw [← hsame afterMark (by omega)]
    split
    · rfl
    next hread =>
    have hle := hitem.length_le hread
    exact ih (by omega)

/-- An object is read alike with readers of texts that read shorter ones alike. -/
theorem untypedObject_congr {Apart : List UInt8 → Prop}
    {text text' : List UInt8 → Except Fault Value}
    (htext : ∀ bs, bs.length < n → text bs = text' bs) {item item' : Reader Value}
    (hitem : ReadsParsed Apart item) (hsame : SameUpTo n item item') :
    SameUpTo n (untypedObject text item) (untypedObject text' item') := by
  intro bs hbs
  unfold untypedObject
  split
  · next afterKey hkey =>
    obtain ⟨gap, source, rfl, -, -⟩ := exists_key_of_afterEmbeddedKey? hkey
    unfold embeddedValue
    split
    · rfl
    next afterMark hcolon =>
    obtain ⟨before, rfl, -⟩ := afterColon_eq_ok_iff.mp hcolon
    split
    · rfl
    · next htoken =>
      have hlt := length_lt_of_token htoken
      simp only [List.length_append, List.length_cons] at hbs
      rw [htext _ (by omega)]
    · rfl
  · simp only [plainObject, members_congr hitem hsame hbs]

/-- Values are read alike with readers of texts that read shorter ones alike. -/
theorem valueBy_congr {text text' : List UInt8 → Except Fault Value}
    (htext : ∀ bs, bs.length < n → text bs = text' bs) (levels : Nat) :
    SameUpTo n (valueBy (untypedObject text) levels) (valueBy (untypedObject text') levels) := by
  induction levels with
  | zero =>
    intro bs _
    rw [valueBy, valueBy]
  | succ levels ih =>
    intro bs hbs
    rw [valueBy, valueBy]
    split
    · rfl
    next b after hskip =>
    obtain ⟨before, rfl, -⟩ := exists_blanks hskip
    have hafter : after.length ≤ n := by
      simp only [List.length_append, List.length_cons] at hbs
      omega
    have hread : ReadsParsed EmbeddedText (valueBy (untypedObject text) levels) :=
      readsParsed_untyped text levels
    simp only [items_congr hread ih hafter, untypedObject_congr htext hread ih after hafter]

/-- A budget that is longer than a text is never used up. -/
theorem untypedText_congr (h : bs.length < steps.length) (h' : bs.length < steps'.length) :
    untypedText steps bs = untypedText steps' bs := by
  induction steps generalizing bs steps' with
  | nil => cases h
  | cons step steps ih =>
    cases steps' with
    | nil => cases h'
    | cons step' steps' =>
      rw [List.length_cons] at h h'
      have htext : ∀ inner : List UInt8, inner.length < bs.length →
          untypedText steps inner = untypedText steps' inner :=
        fun inner hinner => ih (by omega) (by omega)
      rw [untypedText, untypedText, valueBy_congr htext nestingLimit bs (Nat.le_refl _)]

/-- A text in a text is read just as a text by itself. -/
theorem Value.ofUntyped_eq (bs : List UInt8) :
    Value.ofUntyped bs = complete (valueBy (untypedObject Value.ofUntyped) nestingLimit bs) := by
  have htext : ∀ inner : List UInt8, inner.length < bs.length →
      untypedText bs inner = Value.ofUntyped inner :=
    fun inner hinner => untypedText_congr hinner (Nat.lt_succ_self _)
  rw [ofUntyped, budget, untypedText, valueBy_congr htext nestingLimit bs (Nat.le_refl _)]

/-! ## Texts that were written -/

/-- A value that is read back where no form is expected, too: it is one that is read back at all, and
no object in it has the key of an embedded text as its first one. -/
inductive Value.Plain : Nat → Value → Prop
  | scalar {levels : Nat} {v : Value} (hv : v.Scalar) : Plain levels v
  | array {levels : Nat} {items : List Value} (hitems : ∀ v ∈ items, Plain levels v) :
      Plain (levels + 1) (.array items)
  | object {levels : Nat} {ms : List (String × Value)} (hfirst : ∀ m ∈ ms.head?, m.1 ≠ embeddedKey)
      (hmembers : ∀ m ∈ ms, Plain levels m.2) : Plain (levels + 1) (.object ms)

/-- To a reader that knows of no embedded texts such a value is like any other. -/
theorem Value.Plain.faithful (hv : v.Plain levels) : v.Faithful levels := by
  induction hv with
  | scalar hv => exact .scalar hv
  | array _ ih => exact .array ih
  | object _ _ ih => exact .object ih

/-- Written members of which the first has another key are read as members. -/
theorem untypedObject_memberBytes {text : List UInt8 → Except Fault Value} {item : Reader Value}
    {ms : List (String × Value)} (hfirst : ∀ m ∈ ms.head?, m.1 ≠ embeddedKey) :
    untypedObject text item (Value.memberBytes true ms ++ closeObject :: rest) =
      plainObject item (Value.memberBytes true ms ++ closeObject :: rest) := by
  have hnone : afterEmbeddedKey? (Value.memberBytes true ms ++ closeObject :: rest) = none := by
    cases ms with
    | nil => rfl
    | cons m ms =>
      obtain ⟨key, v⟩ := m
      rw [Value.memberBytes_cons, List.append_assoc, List.cons_append, List.append_assoc]
      simp only [afterEmbeddedKey?, nextKey_separatorBytes, string_quotedBytes,
        if_neg (hfirst (key, v) rfl)]
  simp only [untypedObject, hnone]

/-- A written value without embedded texts is read back, whatever reads embedded ones. -/
theorem Value.Plain.readsBack (hv : v.Plain levels) (text : List UInt8 → Except Fault Value) :
    ReadsBack (valueBy (untypedObject text) levels) v := by
  induction hv with
  | scalar hv => exact readsBack_of_scalar hv _ _
  | array hitems ih => exact readsBack_array ih fun v hv => (hitems v hv).faithful.startsValue
  | object hfirst _ ih =>
    refine readsBack_object fun rest => ?_
    rw [untypedObject_memberBytes hfirst]
    exact plainObject_memberBytes ih

/-- A text that was written for a value without embedded texts is read as the value. -/
theorem Value.Plain.ofUntyped_bytes (hv : v.Plain nestingLimit) :
    Value.ofUntyped v.bytes = .ok v.held := by
  have hread := hv.readsBack Value.ofUntyped [] trivial
  rw [List.append_nil] at hread
  rw [ofUntyped_eq, hread]
  rfl

end

end IdentityGateway.Json
