import Mathlib
import LanguageSession.Proofs.Frame.Chunks
import LanguageSession.Proofs.Text.Encoding

/-!
# The frames in a buffer

Every buffer is in exactly one way a sequence of complete frames and a rest that starts with
none.  Feeding finds this decomposition: the messages are those of the frames in order, and
the rest is kept or, if it holds a header block without a length, reported as a whole.  Only a
payload with too many values inside each other stops the reading in front of the rest.
-/

namespace LanguageSession

namespace Frame

/-! ## The first empty line -/

/-- The empty line after the block is the first one. -/
def Separated (block : Bytes) : Prop :=
  ∀ earlier later, block ++ separator = earlier ++ separator ++ later → later = []

theorem atSeparator_iff {buffer : Bytes} :
    atSeparator buffer = true ↔ ∃ later, buffer = separator ++ later := by
  constructor
  · intro here
    match buffer, here with
    | first :: second :: third :: fourth :: later, here =>
        simp only [atSeparator, Bool.and_eq_true, beq_iff_eq] at here
        obtain ⟨⟨⟨rfl, rfl⟩, rfl⟩, rfl⟩ := here
        exact ⟨later, rfl⟩
  · rintro ⟨later, rfl⟩
    rfl

theorem separated_nil : Separated [] := by
  intro earlier later same
  have lengths := congrArg List.length same
  simp only [List.length_append, List.length_nil] at lengths
  exact List.eq_nil_of_length_eq_zero (by omega)

theorem separated_cons {byte : UInt8} {block later : Bytes} (separated : Separated block)
    (elsewhere : atSeparator (byte :: (block ++ separator ++ later)) = false) :
    Separated (byte :: block) := by
  intro earlier after same
  cases earlier with
  | nil =>
      have here : byte :: (block ++ separator ++ later) = separator ++ (after ++ later) := by
        rw [List.nil_append] at same
        rw [← List.cons_append, ← List.cons_append, same, List.append_assoc]
      rw [atSeparator_iff.mpr ⟨_, here⟩] at elsewhere
      cases elsewhere
  | cons first earlier =>
      simp only [List.cons_append, List.cons.injEq] at same
      exact separated earlier after same.2

theorem separated_of_findSeparator {buffer : Bytes} {start position : Nat}
    (found : findSeparator buffer start = some position) :
    ∃ block later, buffer = block ++ separator ++ later ∧ position = start + block.length ∧
      Separated block := by
  induction buffer generalizing start with
  | nil => cases found
  | cons byte rest ih =>
      rw [findSeparator] at found
      split at found
      · next here =>
        obtain ⟨later, same⟩ := atSeparator_iff.mp here
        exact ⟨[], later, same, (Option.some.inj found).symm, separated_nil⟩
      · next elsewhere =>
        obtain ⟨block, later, rfl, rfl, separated⟩ := ih found
        refine ⟨byte :: block, later, rfl, ?_, ?_⟩
        · simp only [List.length_cons]
          omega
        · exact separated_cons separated (by simpa using elsewhere)

theorem no_separator_of_findSeparator {buffer : Bytes} {start : Nat}
    (missing : findSeparator buffer start = none) (block later : Bytes) :
    buffer ≠ block ++ separator ++ later := by
  induction buffer generalizing start block with
  | nil =>
      intro same
      have lengths := congrArg List.length same
      simp [separator] at lengths
  | cons byte rest ih =>
      rw [findSeparator] at missing
      split at missing
      · cases missing
      · next elsewhere =>
        intro same
        cases block with
        | nil => exact elsewhere (atSeparator_iff.mpr ⟨later, same⟩)
        | cons first block => exact ih missing block (List.cons.inj same).2

/-- The first empty line of a buffer is in one place only. -/
theorem Separated.unique {block block' later later' : Bytes} (first : Separated block)
    (first' : Separated block')
    (same : block ++ separator ++ later = block' ++ separator ++ later') :
    block = block' ∧ later = later' := by
  have equal : block ++ separator = block' ++ separator := by
    rcases List.append_eq_append_iff.mp same with ⟨between, longer, -⟩ | ⟨between, longer, -⟩
    · rw [first' block between longer, List.append_nil] at longer
      exact longer.symm
    · rw [first block' between longer, List.append_nil] at longer
      exact longer
  rw [equal] at same
  exact ⟨List.append_cancel_right equal, List.append_cancel_left same⟩

theorem findSeparator_of_separated {block : Bytes} (separated : Separated block) (later : Bytes) :
    findSeparator (block ++ separator ++ later) 0 = some block.length := by
  cases found : findSeparator (block ++ separator ++ later) 0 with
  | none => exact absurd rfl (no_separator_of_findSeparator found block later)
  | some position =>
      obtain ⟨block', later', same, rfl, separated'⟩ := separated_of_findSeparator found
      rw [(separated.unique separated' same).1, Nat.zero_add]

/-! ## Complete frames -/

/-- A header block and a payload. -/
structure Piece where
  block : Bytes
  payload : Bytes

namespace Piece

def bytes (piece : Piece) : Bytes := piece.block ++ separator ++ piece.payload

/-- The block is a whole header block, and it declares the length of the payload. -/
structure WellFormed (piece : Piece) : Prop where
  separated : Separated piece.block
  declared : contentLength piece.block = some piece.payload.length

theorem length_bytes (piece : Piece) :
    piece.bytes.length = piece.block.length + 4 + piece.payload.length := by
  rw [bytes, List.length_append, List.length_append]
  rfl

theorem WellFormed.unique {piece piece' : Piece} {rest rest' : Bytes}
    (first : piece.WellFormed) (first' : piece'.WellFormed)
    (same : piece.bytes ++ rest = piece'.bytes ++ rest') : piece = piece' ∧ rest = rest' := by
  obtain ⟨block, payload⟩ := piece
  obtain ⟨block', payload'⟩ := piece'
  simp only [bytes, List.append_assoc] at same
  simp only [← List.append_assoc _ separator] at same
  obtain ⟨rfl, bodies⟩ := first.separated.unique first'.separated same
  have lengths : payload.length = payload'.length :=
    Option.some.inj (first.declared.symm.trans first'.declared)
  obtain ⟨rfl, rfl⟩ := List.append_inj bodies lengths
  exact ⟨rfl, rfl⟩

/-- The message in the payload: a JSON object, and UTF-8 of it. -/
def message? (piece : Piece) : Option Json :=
  match Utf8.decode piece.payload with
  | .error _ => none
  | .ok text =>
    match Json.read text with
    | .ok (.object members) => some (.object members)
    | _ => none

theorem message?_eq_some_iff {piece : Piece} {message : Json} :
    piece.message? = some message ↔
      ∃ (s : String) (members : List (Text × Json)), piece.payload = s.toUTF8.data.toList ∧
        Json.read (Text.ofString s) = .ok (.object members) ∧ message = .object members := by
  unfold message?
  constructor
  · intro found
    split at found
    · cases found
    · next text decoded =>
      obtain ⟨s, same, rfl⟩ := Utf8.decode_eq_ok_iff.mp decoded
      split at found
      · next members read => exact ⟨s, members, same, read, (Option.some.inj found).symm⟩
      · cases found
  · rintro ⟨s, members, same, read, rfl⟩
    rw [Utf8.decode_eq_ok_iff.mpr ⟨s, same, rfl⟩]
    simp only [read]

/-- The payload has too many values inside each other. -/
def TooDeep (piece : Piece) : Prop := ∃ container, decodePayload piece.payload = .error container

theorem decodePayload_message? {piece : Piece} {payload : Payload}
    (decoded : decodePayload piece.payload = .ok payload) : payload.message? = piece.message? := by
  unfold decodePayload at decoded
  unfold message?
  cases utf8 : Utf8.decode piece.payload with
  | error error =>
      rw [utf8] at decoded
      cases decoded
      rfl
  | ok text =>
      rw [utf8] at decoded
      dsimp only at decoded ⊢
      split at decoded <;> cases decoded
      · next read => rw [read]; rfl
      · next read => rw [read]; rfl
      · next value other read =>
        rw [read]
        cases value with
        | object members => exact absurd rfl (other members)
        | _ => rfl

end Piece

/-- The rest holds a header block that declares no length. -/
def Strays (rest : Bytes) : Prop :=
  ∃ block later, rest = block ++ separator ++ later ∧ Separated block ∧ contentLength block = none

theorem front_of_separated {block : Bytes} (separated : Separated block) (later : Bytes) :
    front (block ++ separator ++ later) =
      match contentLength block with
      | none => .stray
      | some length =>
        if length ≤ later.length then .frame (later.take length) (later.drop length)
        else .incomplete := by
  have taken : (block ++ separator ++ later).take block.length = block := by
    rw [List.append_assoc, List.take_left]
  have dropped : (block ++ separator ++ later).drop (block.length + separator.length) = later := by
    rw [← List.length_append, List.drop_left]
  cases declared : contentLength block with
  | none => simp only [front, findSeparator_of_separated separated, taken, declared]
  | some length =>
      simp only [front, findSeparator_of_separated separated, taken, dropped, declared,
        hasBytes_iff]

theorem front_bytes {piece : Piece} (wellFormed : piece.WellFormed) (rest : Bytes) :
    front (piece.bytes ++ rest) = .frame piece.payload rest := by
  rw [Piece.bytes, List.append_assoc, front_of_separated wellFormed.separated,
    wellFormed.declared]
  simp

theorem piece_of_front {buffer payload rest : Bytes} (begins : front buffer = .frame payload rest) :
    ∃ piece : Piece, piece.WellFormed ∧ piece.payload = payload ∧ buffer = piece.bytes ++ rest := by
  cases found : findSeparator buffer 0 with
  | none => simp [front, found] at begins
  | some position =>
      obtain ⟨block, later, rfl, -, separated⟩ := separated_of_findSeparator found
      rw [front_of_separated separated] at begins
      split at begins
      · cases begins
      · next length declared =>
        split at begins
        · next enough =>
          cases begins
          refine ⟨⟨block, later.take length⟩, ⟨separated, ?_⟩, rfl, ?_⟩
          · rw [declared, List.length_take, Nat.min_eq_left enough]
          · simp only [Piece.bytes, List.append_assoc, List.take_append_drop]
        · cases begins

theorem front_eq_stray_iff {buffer : Bytes} : front buffer = .stray ↔ Strays buffer := by
  constructor
  · intro stray
    cases found : findSeparator buffer 0 with
    | none => simp [front, found] at stray
    | some position =>
        obtain ⟨block, later, rfl, -, separated⟩ := separated_of_findSeparator found
        rw [front_of_separated separated] at stray
        split at stray
        · next missing => exact ⟨block, later, rfl, separated, missing⟩
        · split at stray <;> cases stray
  · rintro ⟨block, later, rfl, separated, missing⟩
    rw [front_of_separated separated, missing]

/-! ## The decomposition -/

/-- Complete frames, and a rest that starts with none. -/
structure Decomposition (buffer : Bytes) (frames : List Piece) (rest : Bytes) : Prop where
  whole : buffer = frames.flatMap Piece.bytes ++ rest
  wellFormed : ∀ frame ∈ frames, frame.WellFormed
  ended : ∀ frame : Piece, frame.WellFormed → ¬ frame.bytes <+: rest

theorem exists_decomposition (buffer : Bytes) :
    ∃ frames rest, Decomposition buffer frames rest := by
  induction size : buffer.length using Nat.strongRecOn generalizing buffer with
  | ind n ih =>
      by_cases complete : ∃ payload rest, front buffer = .frame payload rest
      · obtain ⟨payload, later, begins⟩ := complete
        obtain ⟨piece, wellFormed, -, rfl⟩ := piece_of_front begins
        obtain ⟨frames, rest, whole, each, ended⟩ :=
          ih later.length (size ▸ front_rest_shorter begins) later rfl
        refine ⟨piece :: frames, rest, ?_, List.forall_mem_cons.mpr ⟨wellFormed, each⟩, ended⟩
        rw [List.flatMap_cons, List.append_assoc, ← whole]
      · refine ⟨[], buffer, rfl, by simp, ?_⟩
        rintro frame wellFormed ⟨rest, rfl⟩
        exact complete ⟨_, _, front_bytes wellFormed rest⟩

theorem Decomposition.unique {buffer rest rest' : Bytes} {frames frames' : List Piece}
    (one : Decomposition buffer frames rest) (other : Decomposition buffer frames' rest') :
    frames = frames' ∧ rest = rest' := by
  induction frames generalizing buffer frames' with
  | nil =>
      cases frames' with
      | nil => exact ⟨rfl, one.whole.symm.trans other.whole⟩
      | cons frame frames' =>
          -- where one list of frames stops, the other would go on with a frame that begins there
          refine absurd ?_ (one.ended frame (other.wellFormed frame (by simp)))
          have same := one.whole.symm.trans other.whole
          rw [List.flatMap_cons, List.append_assoc] at same
          exact ⟨_, same.symm⟩
  | cons frame frames ih =>
      cases frames' with
      | nil =>
          refine absurd ?_ (other.ended frame (one.wellFormed frame (by simp)))
          have same := other.whole.symm.trans one.whole
          rw [List.flatMap_cons, List.append_assoc] at same
          exact ⟨_, same.symm⟩
      | cons frame' frames' =>
          have same := one.whole.symm.trans other.whole
          rw [List.flatMap_cons, List.flatMap_cons, List.append_assoc, List.append_assoc] at same
          have each := List.forall_mem_cons.mp one.wellFormed
          have each' := List.forall_mem_cons.mp other.wellFormed
          obtain ⟨rfl, later⟩ := each.1.unique each'.1 same
          obtain ⟨rfl, rfl⟩ := ih ⟨rfl, each.2, one.ended⟩ ⟨later, each'.2, other.ended⟩
          exact ⟨rfl, rfl⟩

theorem Decomposition.length {buffer rest : Bytes} {frames : List Piece}
    (decomposition : Decomposition buffer frames rest) :
    4 * frames.length + rest.length ≤ buffer.length := by
  obtain ⟨rfl, -, -⟩ := decomposition
  rw [List.length_append]
  refine Nat.add_le_add_right ?_ _
  induction frames with
  | nil => simp
  | cons frame frames ih =>
      rw [List.flatMap_cons, List.length_append, frame.length_bytes, List.length_cons]
      omega

/-! ## Feeding finds it -/

/-- How a buffer is cut that starts with frames that can be read. -/
theorem cut_flatMap {frames : List Piece} (rest : Bytes)
    (wellFormed : ∀ frame ∈ frames, frame.WellFormed)
    (readable : ∀ frame ∈ frames, ¬ frame.TooDeep) :
    ∃ payloads, payloads.filterMap Payload.message? = frames.filterMap Piece.message? ∧
      cut (frames.flatMap Piece.bytes ++ rest) =
        { cut rest with payloads := payloads ++ (cut rest).payloads } := by
  induction frames with
  | nil => exact ⟨[], rfl, rfl⟩
  | cons frame frames ih =>
      rw [List.forall_mem_cons] at wellFormed readable
      obtain ⟨payloads, messages, same⟩ := ih wellFormed.2 readable.2
      cases decoded : decodePayload frame.payload with
      | error container => exact absurd ⟨container, decoded⟩ readable.1
      | ok payload =>
          refine ⟨payload :: payloads, ?_, ?_⟩
          · rw [List.filterMap_cons, List.filterMap_cons, messages,
              Piece.decodePayload_message? decoded]
          · rw [List.flatMap_cons, List.append_assoc,
              cut_of_frame (front_bytes wellFormed.1 _) decoded, same]
            rfl

theorem front_of_ended {rest : Bytes}
    (ended : ∀ frame : Piece, frame.WellFormed → ¬ frame.bytes <+: rest) :
    (Strays rest ∧ front rest = .stray) ∨ (¬ Strays rest ∧ front rest = .incomplete) := by
  cases begins : front rest with
  | incomplete =>
      refine .inr ⟨fun strays => ?_, rfl⟩
      rw [front_eq_stray_iff.mpr strays] at begins
      cases begins
  | stray => exact .inl ⟨front_eq_stray_iff.mp begins, rfl⟩
  | frame payload later =>
      obtain ⟨piece, wellFormed, -, rfl⟩ := piece_of_front begins
      exact absurd (List.prefix_append _ _) (ended piece wellFormed)

/-- Feeding a buffer all of whose frames can be read. -/
structure Fed (frames : List Piece) (rest : Bytes) (fed : Feed) : Prop where
  messages : fed.messages = frames.filterMap Piece.message?
  fault : fed.fault = none
  strays : Strays rest → fed.stray = some (Utf8.decodeLossy rest) ∧ fed.buffer = []
  keeps : ¬ Strays rest → fed.stray = none ∧ fed.buffer = rest
  /-- No more bytes bring nothing more about. -/
  settled : feed fed.buffer [] = ⟨[], [], none, fed.buffer, none⟩

theorem feed_of_front_incomplete {buffer : Bytes} (begins : front buffer = .incomplete) :
    feed buffer [] = ⟨[], [], none, buffer, none⟩ := by
  rw [feed, List.append_nil, cut_of_incomplete begins]
  rfl

theorem Decomposition.fed {buffer data rest : Bytes} {frames : List Piece}
    (decomposition : Decomposition (buffer ++ data) frames rest)
    (readable : ∀ frame ∈ frames, ¬ frame.TooDeep) : Fed frames rest (feed buffer data) := by
  obtain ⟨whole, wellFormed, ended⟩ := decomposition
  obtain ⟨payloads, messages, same⟩ := cut_flatMap rest wellFormed readable
  rw [← whole] at same
  rcases front_of_ended ended with ⟨strays, begins⟩ | ⟨quiet, begins⟩
  · rw [cut_of_stray begins, List.append_nil] at same
    have fed : feed buffer data = ⟨payloads.filterMap Payload.message?,
        payloads.filterMap Payload.note?, some (Utf8.decodeLossy rest), [], none⟩ := by
      simp only [feed, same]
    rw [fed]
    exact ⟨messages, rfl, fun _ => ⟨rfl, rfl⟩, fun quiet => absurd strays quiet,
      feed_of_front_incomplete rfl⟩
  · rw [cut_of_incomplete begins, List.append_nil] at same
    have fed : feed buffer data = ⟨payloads.filterMap Payload.message?,
        payloads.filterMap Payload.note?, none, rest, none⟩ := by
      simp only [feed, same]
    rw [fed]
    exact ⟨messages, rfl, fun strays => absurd strays quiet, fun _ => ⟨rfl, rfl⟩,
      feed_of_front_incomplete begins⟩

/-- At the first payload that is too deep, what follows it is kept and nothing is returned. -/
theorem Decomposition.stopped {buffer data rest : Bytes} {before after : List Piece}
    {frame : Piece} (decomposition : Decomposition (buffer ++ data) (before ++ frame :: after) rest)
    (readable : ∀ frame ∈ before, ¬ frame.TooDeep) (tooDeep : frame.TooDeep) :
    ∃ container, (feed buffer data).fault = some (.tooDeep container) ∧
      (feed buffer data).messages = [] ∧ (feed buffer data).stray = none ∧
      (feed buffer data).buffer = after.flatMap Piece.bytes ++ rest := by
  obtain ⟨whole, wellFormed, -⟩ := decomposition
  obtain ⟨container, deep⟩ := tooDeep
  rw [List.forall_mem_append, List.forall_mem_cons] at wellFormed
  obtain ⟨payloads, -, same⟩ :=
    cut_flatMap (frame.bytes ++ (after.flatMap Piece.bytes ++ rest)) wellFormed.1 readable
  rw [cut_of_tooDeep (front_bytes wellFormed.2.1 _) deep] at same
  rw [List.flatMap_append, List.flatMap_cons, List.append_assoc, List.append_assoc] at whole
  refine ⟨container, ?_⟩
  simp [feed, whole, same]

/--
Every buffer with new bytes is a sequence of frames and a rest in exactly one way.  Feeding
returns the messages of the frames in order and reports or keeps the rest, unless a payload
is too deep: then the first such frame and all before it are consumed for nothing.
-/
theorem feed_decomposes (buffer data : Bytes) :
    ∃ frames rest, Decomposition (buffer ++ data) frames rest ∧
      (∀ frames' rest', Decomposition (buffer ++ data) frames' rest' →
        frames' = frames ∧ rest' = rest) ∧
      4 * frames.length + rest.length ≤ (buffer ++ data).length ∧
      (∀ frame ∈ frames, ∀ message, frame.message? = some message ↔
        ∃ (s : String) (members : List (Text × Json)), frame.payload = s.toUTF8.data.toList ∧
          Json.read (Text.ofString s) = .ok (.object members) ∧ message = .object members) ∧
      (((∀ frame ∈ frames, ¬ frame.TooDeep) ∧ Fed frames rest (feed buffer data)) ∨
        ∃ before frame after container, frames = before ++ frame :: after ∧
          (∀ earlier ∈ before, ¬ earlier.TooDeep) ∧ frame.TooDeep ∧
          (feed buffer data).fault = some (.tooDeep container) ∧
          (feed buffer data).messages = [] ∧ (feed buffer data).stray = none ∧
          (feed buffer data).buffer = after.flatMap Piece.bytes ++ rest) := by
  obtain ⟨frames, rest, decomposition⟩ := exists_decomposition (buffer ++ data)
  refine ⟨frames, rest, decomposition, fun _ _ other => other.unique decomposition,
    decomposition.length, fun _ _ _ => Piece.message?_eq_some_iff, ?_⟩
  by_cases readable : ∀ frame ∈ frames, ¬ frame.TooDeep
  · exact .inl ⟨readable, decomposition.fed readable⟩
  · classical
    have deep : (frames.find? fun frame => frame.TooDeep).isSome = true := by
      simpa [List.find?_isSome] using readable
    obtain ⟨frame, found⟩ := Option.isSome_iff_exists.mp deep
    obtain ⟨tooDeep, before, after, rfl, earlier⟩ := List.find?_eq_some_iff_append.mp found
    have readable : ∀ frame ∈ before, ¬ frame.TooDeep := by simpa using earlier
    have tooDeep : frame.TooDeep := by simpa using tooDeep
    obtain ⟨container, stopped⟩ := decomposition.stopped readable tooDeep
    exact .inr ⟨before, frame, after, container, rfl, readable, tooDeep, stopped⟩

end Frame

end LanguageSession
