import IdentityGateway.Proofs.Json.Parts
import IdentityGateway.Proofs.Json.Scalars
import IdentityGateway.Proofs.Json.Strings

/-!
# Values written and read

Reading a written value gives the value back, with the members of its objects in the order of
their keys, if its numbers are integers of 64 bits and it is not nested too deeply.
-/

namespace IdentityGateway.Json

open Byte

namespace Value

mutual

/-- A value as it is held once read: the members of an object are in the order of their keys. -/
def held : Value → Value
  | .array items => .array (heldItems items)
  | .object members => .object (heldMembers [] members)
  | v => v

/-- The elements of a list as they are held. -/
def heldItems : List Value → List Value
  | [] => []
  | v :: rest => v.held :: heldItems rest

/-- The members of an object as they are held, with those in `acc`. -/
def heldMembers (acc : List (String × Value)) : List (String × Value) → List (String × Value)
  | [] => acc
  | (key, v) :: rest => heldMembers (insertMember key v.held acc) rest

end

/-- A value that is read as it was written: its scalars are as above, and at most some number of
containers are open at a time. -/
inductive Faithful : Nat → Value → Prop
  | scalar {levels : Nat} {v : Value} (hv : v.Scalar) : Faithful levels v
  | array {levels : Nat} {items : List Value} (hitems : ∀ v ∈ items, Faithful levels v) :
      Faithful (levels + 1) (.array items)
  | object {levels : Nat} {members : List (String × Value)}
      (hmembers : ∀ m ∈ members, Faithful levels m.2) : Faithful (levels + 1) (.object members)

/-! ## Bytes of the parts -/

/-- What a reader is given of a written value. -/
def bytes (v : Value) : List UInt8 :=
  Text.utf8 v.chars

/-- The bytes of a written string after its opening quote. -/
def quotedBytes (s : String) : List UInt8 :=
  Text.utf8 (s.toList.flatMap escapedChar) ++ [quote]

/-- The byte before every element but the first. -/
def separatorBytes (first : Bool) : List UInt8 :=
  if first then [] else [comma]

/-- The inside of a written list, where commas stand before all elements but the first. -/
def itemBytes (first : Bool) (items : List Value) : List UInt8 :=
  Text.utf8 (itemChars first items)

/-- The inside of a written object, where commas stand before all members but the first. -/
def memberBytes (first : Bool) (members : List (String × Value)) : List UInt8 :=
  Text.utf8 (memberChars first members)

/-- The text of a value has its bytes. -/
theorem toList_toUTF8_text (v : Value) : v.text.toUTF8.toList = v.bytes := by
  rw [Text.toList_toUTF8, text, String.toList_ofList, bytes]

/-- A separator is a comma or nothing. -/
theorem utf8_separator (first : Bool) : Text.utf8 (separator first) = separatorBytes first := by
  cases first <;> rfl

/-- A written string starts with a quote. -/
theorem utf8_stringChars (s : String) : Text.utf8 (stringChars s) = quote :: quotedBytes s := by
  rw [stringChars, List.cons_append, Text.utf8_cons, Text.utf8_append]
  rfl

/-- A string is written between quotes. -/
theorem bytes_string (s : String) : (Value.string s).bytes = quote :: quotedBytes s := by
  rw [bytes, chars, utf8_stringChars]

/-- A list is written between brackets. -/
theorem bytes_array (items : List Value) :
    (Value.array items).bytes = openList :: (itemBytes true items ++ [closeList]) := by
  rw [bytes, chars, List.cons_append, Text.utf8_cons, Text.utf8_append]
  rfl

/-- An object is written between braces. -/
theorem bytes_object (members : List (String × Value)) :
    (Value.object members).bytes = openObject :: (memberBytes true members ++ [closeObject]) := by
  rw [bytes, chars, List.cons_append, Text.utf8_cons, Text.utf8_append]
  rfl

/-- The bytes of an element and those after it. -/
theorem itemBytes_cons (first : Bool) (v : Value) (rest : List Value) :
    itemBytes first (v :: rest) = separatorBytes first ++ (v.bytes ++ itemBytes false rest) := by
  rw [itemBytes, itemChars, Text.utf8_append, Text.utf8_append, utf8_separator, List.append_assoc]
  rfl

/-- The bytes of a member and those after it. -/
theorem memberBytes_cons (first : Bool) (key : String) (v : Value) (rest : List (String × Value)) :
    memberBytes first ((key, v) :: rest) = separatorBytes first ++
      (quote :: (quotedBytes key ++ colon :: (v.bytes ++ memberBytes false rest))) := by
  have hcolon : String.utf8EncodeChar ':' = [colon] := rfl
  simp only [memberBytes, memberChars, Text.utf8_append, Text.utf8_cons, utf8_separator,
    utf8_stringChars, hcolon, bytes, List.append_assoc, List.cons_append, List.nil_append]

/-- Every member takes at least one byte, so that the budget of a reader covers them. -/
theorem length_le_memberBytes (members : List (String × Value)) (first : Bool) :
    members.length ≤ (memberBytes first members).length := by
  induction members generalizing first with
  | nil => exact Nat.zero_le _
  | cons m members ih =>
    have hrest := ih false
    rw [memberBytes_cons]
    simp only [List.length_append, List.length_cons]
    omega

end Value

section

variable {rest : List UInt8}

/-! ## Marks between values -/

/-- What may come after a value in a text without blanks: nothing, or the next mark of the
container around it. -/
def AfterValue : List UInt8 → Prop
  | [] => True
  | b :: _ => b = comma ∨ b = closeList ∨ b = closeObject

/-- A value may end before what comes after one in a text without blanks. -/
theorem AfterValue.endsValue (h : AfterValue rest) : EndsValue rest := by
  rintro b hb
  cases rest with
  | nil => cases hb
  | cons c rest =>
    cases hb
    rcases h with rfl | rfl | rfl <;> decide

/-- The end of a list may come after a value. -/
theorem afterValue_closeList (rest : List UInt8) : AfterValue (closeList :: rest) :=
  .inr (.inl rfl)

/-- The end of an object may come after a value. -/
theorem afterValue_closeObject (rest : List UInt8) : AfterValue (closeObject :: rest) :=
  .inr (.inr rfl)

/-- The other elements of a list may come after a value. -/
theorem afterValue_itemBytes (items : List Value) (rest : List UInt8) :
    AfterValue (Value.itemBytes false items ++ closeList :: rest) := by
  cases items with
  | nil => exact afterValue_closeList rest
  | cons v items =>
    rw [Value.itemBytes_cons]
    exact .inl rfl

/-- The other members of an object may come after a value. -/
theorem afterValue_memberBytes (members : List (String × Value)) (rest : List UInt8) :
    AfterValue (Value.memberBytes false members ++ closeObject :: rest) := by
  cases members with
  | nil => exact afterValue_closeObject rest
  | cons m members =>
    rw [Value.memberBytes_cons]
    exact .inl rfl

/-- A key is found behind the comma before it. -/
theorem nextKey_separatorBytes (first : Bool) (bs : List UInt8) :
    nextKey first (Value.separatorBytes first ++ quote :: bs) = .ok (true, bs) := by
  cases first <;> rfl

/-- A colon is found where one is written. -/
theorem afterColon_colon (bs : List UInt8) : afterColon (colon :: bs) = .ok bs := rfl

/-! ## Scalars -/

/-- A written string is read back behind its opening quote. -/
theorem string_quotedBytes (s : String) (rest : List UInt8) :
    string (Value.quotedBytes s ++ rest) = .ok (s, rest) := by
  rw [Value.quotedBytes, List.append_assoc]
  exact string_escaped s rest

/-- The text written for a scalar is a text of it. -/
theorem Value.Scalar.writes {v : Value} (hv : v.Scalar) : Writes v.bytes v := by
  cases hv with
  | null => exact .null
  | bool b =>
    cases b with
    | true => exact .true
    | false => exact .false
  | integer _ => exact .integer (integerText_text _)
  | string s =>
    rw [bytes_string]
    exact .string (standsFor_escaped s.toList)

/-- The outermost form of a written scalar is the whole scalar. -/
theorem token_bytes {v : Value} (hv : v.Scalar) (hrest : AfterValue rest) :
    token (v.bytes ++ rest) = .ok (v.token, rest) :=
  hv.writes.token hv .nil hrest.endsValue

/-! ## Lists and objects -/

/-- A value is read back by a reader as it is held. -/
def ReadsBack (item : Reader Value) (v : Value) : Prop :=
  ∀ rest, AfterValue rest → item (v.bytes ++ rest) = .ok (v.held, rest)

/-- Only objects are put in another order when they are held. -/
theorem Value.Scalar.held_eq {v : Value} (hv : v.Scalar) : v.held = v := by
  cases hv <;> rfl

/-- A written scalar is read back as a value. -/
theorem readsBack_of_scalar {v : Value} (hv : v.Scalar) (object : ObjectReader) (levels : Nat) :
    ReadsBack (valueBy object levels) v := by
  intro rest hrest
  rw [hv.held_eq]
  exact hv.writes.value hv object levels .nil hrest.endsValue

/-- The bytes start with one that is neither a blank nor the end of a list. -/
def StartsValue (bs : List UInt8) : Prop :=
  ∃ b after, bs = b :: after ∧ isBlank b = false ∧ b ≠ closeList

/-- A written value starts with neither a blank nor the end of a list. -/
theorem Value.Faithful.startsValue {levels : Nat} {v : Value} (hv : v.Faithful levels) :
    StartsValue v.bytes := by
  cases hv with
  | scalar hv => exact (ValueForm.scalar hv.writes.scalarForm).exists_cons
  | array _ => exact ⟨openList, _, Value.bytes_array _, rfl, by decide⟩
  | object _ => exact ⟨openObject, _, Value.bytes_object _, rfl, by decide⟩

private theorem length_le_itemBytes {vs : List Value} (hstart : ∀ v ∈ vs, StartsValue v.bytes)
    (first : Bool) : vs.length ≤ (Value.itemBytes first vs).length := by
  induction vs generalizing first with
  | nil => exact Nat.zero_le _
  | cons v vs ih =>
    obtain ⟨b, after, hbytes, -⟩ := hstart v List.mem_cons_self
    have hrest := ih (fun w hw => hstart w (List.mem_cons_of_mem v hw)) false
    rw [Value.itemBytes_cons, hbytes]
    simp only [List.length_append, List.length_cons]
    omega

/-- An element is found behind the comma before it. -/
theorem nextItem_separatorBytes (first : Bool) {bs : List UInt8} (hbs : StartsValue bs) :
    nextItem first (Value.separatorBytes first ++ bs) = .ok (true, bs) := by
  obtain ⟨b, after, rfl, hblank, hclose⟩ := hbs
  cases first with
  | true =>
    change nextItem true (b :: after) = _
    rw [nextItem, skipBlanks_cons hblank]
    simp only [if_neg hclose, if_true]
  | false =>
    change nextItem false (comma :: b :: after) = _
    rw [nextItem, skipBlanks_cons rfl]
    simp only [if_neg (show comma ≠ closeList by decide), Bool.false_eq_true, if_false, if_true,
      skipBlanks_cons hblank, if_neg hclose]

/-- Written elements are read back up to the end of the list. -/
theorem items_itemBytes {item : Reader Value} {vs : List Value}
    (hitem : ∀ v ∈ vs, ReadsBack item v) (hstart : ∀ v ∈ vs, StartsValue v.bytes) (first : Bool)
    (acc : List Value) {steps : Budget} (hsteps : vs.length < steps.length) :
    items item first acc steps (Value.itemBytes first vs ++ closeList :: rest) =
      .ok (acc.reverse ++ Value.heldItems vs, closeList :: rest) := by
  induction vs generalizing first acc steps with
  | nil =>
    cases steps with
    | nil => cases hsteps
    | cons step steps =>
      change items item first acc (step :: steps) (closeList :: rest) = _
      simp only [items, nextItem_closeList, Value.heldItems, List.append_nil]
  | cons v vs ih =>
    cases steps with
    | nil => cases hsteps
    | cons step steps =>
      obtain ⟨b, after, hbytes, hblank, hclose⟩ := hstart v List.mem_cons_self
      have hnext : StartsValue (v.bytes ++ (Value.itemBytes false vs ++ closeList :: rest)) :=
        ⟨b, _, by rw [hbytes, List.cons_append], hblank, hclose⟩
      rw [Value.itemBytes_cons, List.append_assoc, List.append_assoc]
      simp only [items, nextItem_separatorBytes first hnext,
        hitem v List.mem_cons_self _ (afterValue_itemBytes vs rest)]
      rw [ih (fun w hw => hitem w (List.mem_cons_of_mem v hw))
        (fun w hw => hstart w (List.mem_cons_of_mem v hw)) false (v.held :: acc)
        (Nat.lt_of_succ_lt_succ hsteps)]
      simp only [List.reverse_cons, List.append_assoc, List.singleton_append, Value.heldItems]

/-- Written members are read back up to the end of the object. -/
theorem members_memberBytes {item : Reader Value} {ms : List (String × Value)}
    (hitem : ∀ m ∈ ms, ReadsBack item m.2) (first : Bool) (acc : List (String × Value))
    {steps : Budget} (hsteps : ms.length < steps.length) :
    members item first acc steps (Value.memberBytes first ms ++ closeObject :: rest) =
      .ok (Value.heldMembers acc ms, closeObject :: rest) := by
  induction ms generalizing first acc steps with
  | nil =>
    cases steps with
    | nil => cases hsteps
    | cons step steps => rfl
  | cons m ms ih =>
    cases steps with
    | nil => cases hsteps
    | cons step steps =>
      obtain ⟨key, v⟩ := m
      rw [Value.memberBytes_cons, List.append_assoc, List.cons_append]
      simp only [members, nextKey_separatorBytes, List.append_assoc, List.cons_append,
        string_quotedBytes, afterColon_colon,
        hitem (key, v) List.mem_cons_self _ (afterValue_memberBytes ms rest)]
      exact ih (fun m hm => hitem m (List.mem_cons_of_mem _ hm)) false _
        (Nat.lt_of_succ_lt_succ hsteps)

/-! ## Values -/

/-- A written list is read back if its elements are. -/
theorem readsBack_array {object : ObjectReader} {levels : Nat} {vs : List Value}
    (hitems : ∀ v ∈ vs, ReadsBack (valueBy object levels) v)
    (hstart : ∀ v ∈ vs, StartsValue v.bytes) :
    ReadsBack (valueBy object (levels + 1)) (.array vs) := by
  intro rest _
  have hsteps : vs.length < (budget (Value.itemBytes true vs ++ closeList :: rest)).length := by
    have hle := length_le_itemBytes hstart true
    simp only [budget, List.length_cons, List.length_append]
    omega
  rw [Value.bytes_array, List.cons_append, List.append_assoc, List.singleton_append, valueBy,
    skipBlanks_cons (by decide)]
  simp only [if_true, items_itemBytes hitems hstart true [] hsteps]
  rfl

/-- Written members are read back as an object with its end. -/
theorem plainObject_memberBytes {item : Reader Value} {ms : List (String × Value)}
    (hitem : ∀ m ∈ ms, ReadsBack item m.2) :
    plainObject item (Value.memberBytes true ms ++ closeObject :: rest) =
      .ok ((Value.object ms).held, rest) := by
  have hsteps :
      ms.length < (budget (Value.memberBytes true ms ++ closeObject :: rest)).length := by
    have hle := Value.length_le_memberBytes ms true
    simp only [budget, List.length_cons, List.length_append]
    omega
  simp only [plainObject, members_memberBytes hitem true [] hsteps]
  rfl

/-- A written object is read back if its members are read so after its mark. -/
theorem readsBack_object {object : ObjectReader} {levels : Nat} {ms : List (String × Value)}
    (hobject : ∀ rest, object (valueBy object levels)
      (Value.memberBytes true ms ++ closeObject :: rest) = .ok ((Value.object ms).held, rest)) :
    ReadsBack (valueBy object (levels + 1)) (.object ms) := by
  intro rest _
  rw [Value.bytes_object, List.cons_append, List.append_assoc, List.singleton_append, valueBy,
    skipBlanks_cons (by decide)]
  simp only [if_neg (show openObject ≠ openList by decide), if_true, hobject]

/-- A written value is read back as it is held. -/
theorem Value.Faithful.readsBack {levels : Nat} {v : Value} (hv : v.Faithful levels) :
    ReadsBack (value levels) v := by
  induction hv with
  | scalar hv => exact readsBack_of_scalar hv plainObject _
  | array hitems ih => exact readsBack_array ih fun v hv => (hitems v hv).startsValue
  | object _ ih => exact readsBack_object fun _ => plainObject_memberBytes ih

/-- The value of a text by the grammar of JSON alone, in which no key has a meaning. -/
def Value.ofBytes (bs : List UInt8) : Except Fault Value :=
  complete (value nestingLimit bs)

/-- A text that was written for a value is read as the value. -/
theorem Value.Faithful.ofBytes_bytes {v : Value} (hv : v.Faithful nestingLimit) :
    Value.ofBytes v.bytes = .ok v.held := by
  have hread := hv.readsBack [] trivial
  rw [List.append_nil] at hread
  rw [ofBytes, hread]
  rfl

/-! ## Texts that are the same -/

/-- Values with the same bytes have the same text. -/
theorem Value.text_eq_of_bytes_eq {v w : Value} (h : v.bytes = w.bytes) : v.text = w.text := by
  have hdecoded : ∀ v : Value, decodeUtf8 v.bytes = some v.text := by
    intro v
    rw [← decodeUtf8_utf8 v.text, bytes, text, String.toList_ofList]
  exact Option.some.inj ((hdecoded v).symm.trans (h ▸ hdecoded w))

/-- Members of one key are the same scalar if the texts from there on are the same, and the texts
behind them are the same. -/
theorem Value.memberBytes_inj {first : Bool} {key : String} {v w : Value} (hv : v.Scalar)
    (hw : w.Scalar) {ms ms' : List (String × Value)} {rest rest' : List UInt8}
    (h : memberBytes first ((key, v) :: ms) ++ Byte.closeObject :: rest =
      memberBytes first ((key, w) :: ms') ++ Byte.closeObject :: rest') :
    v.token = w.token ∧ memberBytes false ms ++ Byte.closeObject :: rest =
      memberBytes false ms' ++ Byte.closeObject :: rest' := by
  rw [memberBytes_cons, memberBytes_cons] at h
  simp only [List.append_assoc, List.cons_append, List.append_cancel_left_eq, List.cons.injEq,
    true_and] at h
  have hread := token_bytes hv (afterValue_memberBytes ms rest)
  rw [h, token_bytes hw (afterValue_memberBytes ms' rest')] at hread
  obtain ⟨htoken, hrest⟩ := Prod.mk.inj (Except.ok.inj hread)
  exact ⟨htoken.symm, hrest.symm⟩

/-- Members of one key at the end of an object have the same text if the texts from there on are
the same. -/
theorem Value.text_eq_of_last_member {first : Bool} {key : String} {v w : Value}
    (h : memberBytes first [(key, v)] ++ [Byte.closeObject] =
      memberBytes first [(key, w)] ++ [Byte.closeObject]) : v.text = w.text := by
  rw [memberBytes_cons, memberBytes_cons] at h
  simp only [List.append_assoc, List.cons_append, List.append_cancel_left_eq, List.cons.injEq,
    true_and] at h
  exact text_eq_of_bytes_eq (List.append_cancel_right h)

end

end IdentityGateway.Json
