import Mathlib
import LanguageSession.Frame.Encode
import LanguageSession.Proofs.Association
import LanguageSession.Proofs.Frame.Chunks
import LanguageSession.Proofs.Json.Numbers
import LanguageSession.Proofs.Json.Strings
import LanguageSession.Proofs.Text.Plain
import LanguageSession.Proofs.Text.Utf8

/-!
# Which values can be sent

A value that was read from a JSON text has a JSON form again.  This form can be encoded
unless a surrogate stands in one of the texts of the value, the names of members included.
-/

namespace LanguageSession

namespace Text

def hasSurrogate (text : Text) : Bool := text.any CodePoint.isSurrogate

@[simp] theorem hasSurrogate_nil : hasSurrogate [] = false := rfl

@[simp] theorem hasSurrogate_cons (c : CodePoint) (text : Text) :
    hasSurrogate (c :: text) = (c.isSurrogate || hasSurrogate text) := List.any_cons

@[simp] theorem hasSurrogate_append (text later : Text) :
    hasSurrogate (text ++ later) = (hasSurrogate text || hasSurrogate later) := List.any_append

@[simp] theorem hasSurrogate_ofString (s : String) : hasSurrogate (ofString s) = false := by
  simp [hasSurrogate, ofString]

theorem Plain.hasSurrogate {text : Text} (plain : Plain text) : hasSurrogate text = false := by
  refine List.any_eq_false.mpr fun c member => ?_
  have small := plain.ascii c member
  simp [CodePoint.isSurrogate]
  omega

end Text

namespace Json

mutual

/-- Does a surrogate stand in a text of the value, or in the name of a member? -/
def hasSurrogate : Json → Bool
  | .string text => text.hasSurrogate
  | .array items => itemsHaveSurrogate items
  | .object members => membersHaveSurrogate members
  | _ => false

def itemsHaveSurrogate : List Json → Bool
  | [] => false
  | item :: rest => hasSurrogate item || itemsHaveSurrogate rest

def membersHaveSurrogate : List (Text × Json) → Bool
  | [] => false
  | (name, value) :: rest =>
    name.hasSurrogate || hasSurrogate value || membersHaveSurrogate rest

end

theorem compactForm_comma : Text.hasSurrogate compactForm.comma = false :=
  Text.hasSurrogate_ofString ","

theorem compactForm_colon : Text.hasSurrogate compactForm.colon = false :=
  Text.hasSurrogate_ofString ":"

theorem hasSurrogate_control {n : Nat} (control : n < 0x20) :
    Text.hasSurrogate (unitEscape n) = false := by
  interval_cases n <;> rfl

/-- The letters of an escape are no surrogates, and neither is what they stand for. -/
theorem hasSurrogate_writeCharacter (c : CodePoint) :
    Text.hasSurrogate (writeCharacter compactForm c) = c.isSurrogate := by
  unfold writeCharacter
  cases escape : letterEscape? c with
  | some text =>
      unfold letterEscape? at escape
      split_ifs at escape with quote slash newline carriage tab feed back
      all_goals rw [← Option.some.inj escape]
      · simp [quote]
      · simp [slash]
      all_goals simp [CodePoint.isSurrogate, *]
  | none =>
      by_cases control : c.val < 0x20
      · have plain : c.isSurrogate = false := by
          rw [Utf8.isSurrogate_eq_false_iff]
          omega
        simp [control, hasSurrogate_control control, plain]
      · simp [control, compactForm]

theorem hasSurrogate_writeString (text : Text) :
    Text.hasSurrogate (writeString compactForm text) = text.hasSurrogate := by
  induction text with
  | nil => simp [writeString_eq, quotationMark]
  | cons c text ih =>
      rw [writeString_eq] at ih ⊢
      simp only [quotationMark, Text.hasSurrogate_cons, Text.hasSurrogate_append,
        List.flatMap_cons, hasSurrogate_writeCharacter, CodePoint.isSurrogate_ofChar,
        Bool.false_or, Text.hasSurrogate_nil, Bool.or_false] at ih ⊢
      rw [ih]

mutual

theorem hasSurrogate_write : ∀ value : Json,
    Text.hasSurrogate (write compactForm value) = value.hasSurrogate
  | .null => Text.hasSurrogate_ofString "null"
  | .bool true => Text.hasSurrogate_ofString "true"
  | .bool false => Text.hasSurrogate_ofString "false"
  | .integer n => (Text.plain_ofInt n).hasSurrogate
  | .float d => (plain_writeDouble d).hasSurrogate
  | .string text => hasSurrogate_writeString text
  | .array [] => Text.hasSurrogate_ofString "[]"
  | .array (item :: rest) => by
      simp [write, hasSurrogate, itemsHaveSurrogate, hasSurrogate_write item,
        hasSurrogate_writeItems rest]
  | .object [] => by simp [write, hasSurrogate, membersHaveSurrogate]
  | .object ((name, value) :: rest) => by
      simp [write, hasSurrogate, membersHaveSurrogate, hasSurrogate_writeString,
        hasSurrogate_write value, hasSurrogate_writeMembers rest, compactForm_colon, Bool.or_assoc]
  | .foreign _ => rfl

theorem hasSurrogate_writeItems : ∀ items : List Json,
    Text.hasSurrogate (writeItems compactForm items) = itemsHaveSurrogate items
  | [] => by simp [writeItems, itemsHaveSurrogate]
  | item :: rest => by
      simp [writeItems, itemsHaveSurrogate, hasSurrogate_write item, hasSurrogate_writeItems rest,
        compactForm_comma]

theorem hasSurrogate_writeMembers : ∀ members : List (Text × Json),
    Text.hasSurrogate (writeMembers compactForm members) = membersHaveSurrogate members
  | [] => by simp [writeMembers, membersHaveSurrogate]
  | (name, value) :: rest => by
      simp [writeMembers, membersHaveSurrogate, hasSurrogate_writeString, hasSurrogate_write value,
        hasSurrogate_writeMembers rest, compactForm_comma, compactForm_colon, Bool.or_assoc]

end

/-! ## Values that were read -/

/-- Everything in the value has a JSON form. -/
def Expressible (value : Json) : Prop := firstForeign? value = none

theorem firstForeignItem?_eq_none {items : List Json} :
    firstForeignItem? items = none ↔ ∀ item ∈ items, Expressible item := by
  induction items with
  | nil => simp [firstForeignItem?]
  | cons item rest ih => simp [firstForeignItem?, Option.or_eq_none_iff, ih, Expressible]

theorem firstForeignMember?_eq_none {members : List (Text × Json)} :
    firstForeignMember? members = none ↔ ∀ member ∈ members, Expressible member.2 := by
  induction members with
  | nil => simp [firstForeignMember?]
  | cons member rest ih =>
      obtain ⟨name, value⟩ := member
      simp [firstForeignMember?, Option.or_eq_none_iff, ih, Expressible]

theorem expressible_array {items : List Json} :
    Expressible (.array items) ↔ ∀ item ∈ items, Expressible item :=
  firstForeignItem?_eq_none

theorem expressible_object {members : List (Text × Json)} :
    Expressible (.object members) ↔ ∀ member ∈ members, Expressible member.2 :=
  firstForeignMember?_eq_none

theorem expressible_put {name : Text} {value : Json} {members : List (Text × Json)}
    (first : Expressible value) (others : ∀ member ∈ members, Expressible member.2) :
    ∀ member ∈ Association.put name value members, Expressible member.2 := by
  intro member inside
  rcases Association.mem_put inside with earlier | rfl
  · exact others member earlier
  · exact first

theorem readNumber_expressible {text : Text} {found : Json × Text} (read : readNumber text = .ok found) :
    Expressible found.1 := by
  rw [readNumber_eq] at read
  split at read
  · cases read
  · unfold numberFrom at read
    dsimp only at read
    split_ifs at read <;> cases read <;> rfl

theorem readWord_expressible {text : Text} {found : Json × Text} (read : readWord text = some found) :
    Expressible found.1 := by
  obtain ⟨word, known, rfl⟩ := Option.map_eq_some_iff.mp read
  have each : ∀ word ∈ words, Expressible word.2 := by simp [words, Expressible, firstForeign?]
  exact each word (List.mem_of_find?_eq_some known)

/-- What the three readers of values return, within a bound on their calls. -/
structure ReadsExpressible (bound : Nat) : Prop where
  value : ∀ depth text found, readValue bound depth text = .ok found → Expressible found.1
  items : ∀ depth read text found, (∀ item ∈ read, Expressible item) →
    readItems bound depth read text = .ok found → Expressible found.1
  members : ∀ depth read text found, (∀ member ∈ read, Expressible member.2) →
    readMembers bound depth read text = .ok found → Expressible found.1

theorem reads_expressible (bound : Nat) : ReadsExpressible bound := by
  induction bound with
  | zero =>
      constructor
      · intro depth text found read
        simp [readValue] at read
      · intro depth earlier text found _ read
        simp [readItems] at read
      · intro depth earlier text found _ read
        simp [readMembers] at read
  | succ bound ih =>
      constructor
      · intro depth text found read
        cases text with
        | nil => simp [readValue] at read
        | cons c rest =>
            rw [readValue.eq_def] at read
            dsimp only at read
            -- A string, an object without and with members, an array without and with items.
            split_ifs at read
            · split at read
              · cases read
                rfl
              · cases read
            · split at read <;> cases read
              rfl
            · split at read
              · cases read
              · exact ih.members _ _ _ _ (by simp) read
            · split at read <;> cases read
              rfl
            · split at read
              · cases read
              · exact ih.items _ _ _ _ (by simp) read
            · split at read
              · next known =>
                cases read
                exact readWord_expressible known
              · exact readNumber_expressible read
      · intro depth earlier text found each read
        rw [readItems] at read
        split at read
        · cases read
        · next item after first =>
          have item_expressible := ih.value _ _ _ first
          dsimp only at read
          split_ifs at read
          · cases read
            refine expressible_array.mpr fun other member => ?_
            rw [List.mem_reverse, List.mem_cons] at member
            rcases member with rfl | earlier
            · exact item_expressible
            · exact each other earlier
          · exact ih.items _ _ _ _ (List.forall_mem_cons.mpr ⟨item_expressible, each⟩) read
      · intro depth earlier text found each read
        rw [readMembers] at read
        split_ifs at read
        split at read
        · cases read
        · dsimp only at read
          split_ifs at read
          split at read
          · cases read
          · next value after first =>
            have value_expressible := ih.value _ _ _ first
            split_ifs at read
            · cases read
              exact expressible_object.mpr (expressible_put value_expressible each)
            · exact ih.members _ _ _ _ (expressible_put value_expressible each) read

theorem read_expressible {text : Text} {value : Json} (found : read text = .ok value) :
    Expressible value := by
  unfold read readWithin at found
  split_ifs at found
  split at found
  · cases found
  · next first =>
    split at found
    · cases found
      exact (reads_expressible _).value _ _ _ first
    · cases found

end Json

namespace Frame

theorem encode_eq_ok_iff {message : Json} (expressible : message.Expressible) :
    (∃ data, encode message = .ok data) ↔ message.hasSurrogate = false := by
  have free : Utf8.findSurrogates message.compact = none ↔ message.hasSurrogate = false := by
    rw [Utf8.findSurrogates_eq_none_iff, ← Json.hasSurrogate_write]
    simp [Json.compact, Text.hasSurrogate]
  rw [← free, encode, expressible, Utf8.encode]
  cases Utf8.findSurrogates message.compact <;> simp

/-- A surrogate is not encoded, whatever else the message holds. -/
theorem encode_of_hasSurrogate {message : Json} (surrogate : message.hasSurrogate = true) :
    ∃ error, encode message = .error error := by
  cases encoded : encode message with
  | error error => exact ⟨error, rfl⟩
  | ok data =>
      have expressible : message.Expressible := by
        cases foreign : message.firstForeign? with
        | none => exact foreign
        | some kind => simp [encode, foreign] at encoded
      have free := (encode_eq_ok_iff expressible).mp ⟨data, encoded⟩
      rw [surrogate] at free
      cases free

theorem expressible_of_decodePayload {payload : Bytes} {message : Json}
    (decoded : decodePayload payload = .ok (.message message)) : message.Expressible := by
  unfold decodePayload at decoded
  split at decoded
  · cases decoded
  · split at decoded <;> cases decoded
    next found => exact Json.read_expressible found

theorem expressible_of_mem_cut {buffer : Bytes} {message : Json}
    (held : .message message ∈ (cut buffer).payloads) : message.Expressible := by
  induction length : buffer.length using Nat.strong_induction_on generalizing buffer with
  | _ length ih =>
      subst length
      rcases cut_cases buffer with ⟨-, same⟩ | ⟨-, same⟩ | ⟨_, _, _, -, -, same⟩ |
        ⟨payload, rest, value, begins, decoded, same⟩
      · simp [same] at held
      · simp [same] at held
      · simp [same] at held
      · rw [same] at held
        rcases List.mem_cons.mp held with rfl | later
        · exact expressible_of_decodePayload decoded
        · exact ih _ (front_rest_shorter begins) later rfl

end Frame

end LanguageSession
