import Mathlib
import LanguageSession.Proofs.Frame.Header
import LanguageSession.Proofs.Json.Surrogates
import LanguageSession.Proofs.Json.Texts
import LanguageSession.Proofs.Text.Encoding

/-!
# What a message is encoded as

A message is refused for a value without a JSON form, and then the first one in the order
of writing is named, or else for a surrogate in a text or in the name of a member, and then
the first run of them in the written text is named.  Every other message becomes a header
that counts the bytes of the body, and the body, as one string in UTF-8.
-/

namespace LanguageSession

namespace Json

def foreign? : Json → Option Foreign
  | .foreign kind => some kind
  | _ => none

theorem foreign?_eq_some_iff {value : Json} {kind : Foreign} :
    value.foreign? = some kind ↔ value = .foreign kind := by
  cases value <;> simp [foreign?]

theorem foreign?_eq_none_iff {value : Json} :
    value.foreign? = none ↔ ∀ kind, value ≠ .foreign kind := by
  cases value <;> simp [foreign?]

mutual

theorem firstForeign?_eq_findSome? : ∀ value : Json,
    firstForeign? value = (parts value).findSome? foreign?
  | .null => rfl
  | .bool _ => rfl
  | .integer _ => rfl
  | .float _ => rfl
  | .string _ => rfl
  | .array items => by
      rw [firstForeign?, firstForeignItem?_eq_findSome? items, parts, List.findSome?_cons]
      rfl
  | .object members => by
      rw [firstForeign?, firstForeignMember?_eq_findSome? members, parts, List.findSome?_cons]
      rfl
  | .foreign _ => rfl

theorem firstForeignItem?_eq_findSome? : ∀ items : List Json,
    firstForeignItem? items = (itemParts items).findSome? foreign?
  | [] => rfl
  | item :: rest => by
      simp [firstForeignItem?, itemParts, List.findSome?_append,
        firstForeign?_eq_findSome? item, firstForeignItem?_eq_findSome? rest]

theorem firstForeignMember?_eq_findSome? : ∀ members : List (Text × Json),
    firstForeignMember? members = (memberParts members).findSome? foreign?
  | [] => rfl
  | (_, value) :: rest => by
      simp [firstForeignMember?, memberParts, List.findSome?_append,
        firstForeign?_eq_findSome? value, firstForeignMember?_eq_findSome? rest]

end

/-- No value without a JSON form is written before this one. -/
def FirstForeign (value : Json) (kind : Foreign) : Prop :=
  ∃ before after, value.parts = before ++ .foreign kind :: after ∧
    ∀ other, .foreign other ∉ before

theorem firstForeign?_eq_some_iff {value : Json} {kind : Foreign} :
    firstForeign? value = some kind ↔ FirstForeign value kind := by
  rw [firstForeign?_eq_findSome?, List.findSome?_eq_some_iff]
  constructor
  · rintro ⟨before, found, after, same, named, none⟩
    rw [foreign?_eq_some_iff] at named
    exact ⟨before, after, named ▸ same, fun other member =>
      foreign?_eq_none_iff.mp (none _ member) other rfl⟩
  · rintro ⟨before, after, same, none⟩
    refine ⟨before, .foreign kind, after, same, rfl, fun value member => ?_⟩
    rw [foreign?_eq_none_iff]
    rintro other rfl
    exact none other member

theorem expressible_iff {value : Json} :
    Expressible value ↔ ∀ kind, .foreign kind ∉ value.parts := by
  rw [Expressible, firstForeign?_eq_findSome?, List.findSome?_eq_none_iff]
  constructor
  · intro none kind member
    exact foreign?_eq_none_iff.mp (none _ member) kind rfl
  · intro none part member
    rw [foreign?_eq_none_iff]
    rintro kind rfl
    exact none kind member

mutual

theorem hasSurrogate_eq_any : ∀ value : Json,
    value.hasSurrogate = value.texts.any Text.hasSurrogate
  | .null => rfl
  | .bool _ => rfl
  | .integer _ => rfl
  | .float _ => rfl
  | .string text => by simp [hasSurrogate, texts, parts, ownTexts]
  | .array items => by
      simp [hasSurrogate, texts, parts, ownTexts, itemsHaveSurrogate_eq_any items]
  | .object members => by
      rw [hasSurrogate, membersHaveSurrogate_eq_any members]
      simp [texts, parts, ownTexts]
  | .foreign _ => rfl

theorem itemsHaveSurrogate_eq_any : ∀ items : List Json,
    itemsHaveSurrogate items = ((itemParts items).flatMap ownTexts).any Text.hasSurrogate
  | [] => rfl
  | item :: rest => by
      simp only [itemsHaveSurrogate, itemParts, List.flatMap_append, List.any_append,
        hasSurrogate_eq_any item, itemsHaveSurrogate_eq_any rest, texts]

theorem membersHaveSurrogate_eq_any : ∀ members : List (Text × Json),
    membersHaveSurrogate members = ((members.map Prod.fst).any Text.hasSurrogate ||
      ((memberParts members).flatMap ownTexts).any Text.hasSurrogate)
  | [] => rfl
  | (name, value) :: rest => by
      simp only [membersHaveSurrogate, memberParts, List.map_cons, List.any_cons,
        List.flatMap_append, List.any_append, hasSurrogate_eq_any value,
        membersHaveSurrogate_eq_any rest, texts]
      ac_rfl

end

theorem hasSurrogate_iff {value : Json} :
    value.hasSurrogate = true ↔ ∃ text ∈ value.texts, ∃ c ∈ text, c.isSurrogate = true := by
  rw [hasSurrogate_eq_any, List.any_eq_true]
  simp only [Text.hasSurrogate, List.any_eq_true]

theorem firstRun_compact_iff {value : Json} :
    (∃ run, Utf8.FirstRun value.compact run) ↔
      ∃ text ∈ value.texts, ∃ c ∈ text, c.isSurrogate = true := by
  have free : Utf8.findSurrogates value.compact = none ↔
      ∀ c ∈ value.compact, c.isSurrogate = false := Utf8.findSurrogates_eq_none_iff
  rw [← hasSurrogate_iff, ← hasSurrogate_write]
  simp only [← Utf8.findSurrogates_eq_some_iff, ← Option.isSome_iff_exists,
    Option.isSome_iff_ne_none, ne_eq, free]
  simp [compact, Text.hasSurrogate]

theorem findSurrogates_compact_eq_none_iff {value : Json} :
    Utf8.findSurrogates value.compact = none ↔
      ∀ text ∈ value.texts, ∀ c ∈ text, c.isSurrogate = false := by
  rw [Option.eq_none_iff_forall_ne_some]
  simp only [ne_eq, Utf8.findSurrogates_eq_some_iff, ← not_exists, firstRun_compact_iff]
  simp

end Json

namespace Frame

/-! ## What a frame looks like -/

theorem bytesOf_append (text later : Text) :
    Utf8.bytesOf (text ++ later) = Utf8.bytesOf text ++ Utf8.bytesOf later :=
  List.flatMap_append

theorem asciiBytes_eq_bytesOf {text : Text} (ascii : ∀ c ∈ text, c.val < 0x80) :
    asciiBytes text = Utf8.bytesOf text := by
  rw [asciiBytes, Utf8.bytesOf, List.map_eq_flatMap]
  refine List.flatMap_congr fun c member => ?_
  rw [Utf8.encodeCodePoint, if_pos (ascii c member)]

def frameText (body : String) : String :=
  "Content-Length: " ++ toString body.utf8ByteSize ++ "\r\n\r\n" ++ body

theorem separator_eq : separator = Utf8.bytesOf (Text.ofString "\r\n\r\n") := by
  have characters : Text.ofString "\r\n\r\n" = [CodePoint.ofChar '\r', CodePoint.ofChar '\n',
      CodePoint.ofChar '\r', CodePoint.ofChar '\n'] := by simp [Text.ofString]
  rw [characters]
  decide

theorem length_bytesOf (body : String) :
    (Utf8.bytesOf (Text.ofString body)).length = body.utf8ByteSize := by
  rw [Utf8.bytesOf_ofString, Array.length_toList, String.toUTF8_eq_toByteArray]
  exact String.size_toByteArray

theorem ofString_frameText (body : String) :
    Text.ofString (frameText body) = headerLine body.utf8ByteSize ++
      Text.ofString "\r\n\r\n" ++ Text.ofString body := by
  unfold frameText headerLine
  simp only [Text.ofString_append, Text.ofNat_eq_ofString]

theorem wrap_bytesOf (body : String) :
    wrap (Utf8.bytesOf (Text.ofString body)) = (frameText body).toUTF8.data.toList := by
  have line := asciiBytes_eq_bytesOf fun c (member : c ∈ headerLine body.utf8ByteSize) =>
    (headerLine_bounds member).2
  rw [← Utf8.bytesOf_ofString, ofString_frameText, bytesOf_append, bytesOf_append,
    ← separator_eq, ← line, wrap, length_bytesOf, header_eq]

/-! ## When a message has a frame -/

theorem encode_eq_unserializable_iff {message : Json} {kind : Foreign} :
    encode message = .error (.unserializable kind) ↔ message.firstForeign? = some kind := by
  unfold encode
  cases message.firstForeign? with
  | some other => simp
  | none => cases Utf8.encode message.compact <;> simp

theorem encode_eq_surrogates_iff {message : Json} {run : Utf8.SurrogateRun} :
    encode message = .error (.surrogates run) ↔
      message.Expressible ∧ Utf8.findSurrogates message.compact = some run := by
  unfold encode Json.Expressible Utf8.encode
  cases message.firstForeign? with
  | some other => simp
  | none => cases Utf8.findSurrogates message.compact <;> simp

theorem encode_eq_ok_iff_wrap {message : Json} {wire : Bytes} :
    encode message = .ok wire ↔ message.Expressible ∧
      Utf8.findSurrogates message.compact = none ∧ wire = wrap (Utf8.bytesOf message.compact) := by
  unfold encode Json.Expressible Utf8.encode
  cases message.firstForeign? with
  | some other => simp
  | none => cases Utf8.findSurrogates message.compact <;> simp [eq_comm]

end Frame

end LanguageSession
