import Mathlib
import LanguageSession.Text.Lossless
import LanguageSession.Proofs.Text.Encoding

/-!
# ASCII bytes in a stream

A byte below 0x80 goes on with no sequence.  Wherever one stands, bytes may be cut there and
decoded piece by piece, and no other bytes are decoded to its character.
-/

namespace LanguageSession

namespace Utf8

structure Unfinished.GoesHigh (unfinished : Unfinished) : Prop where
  low : 0x80 ≤ unfinished.low
  value : 0x80 ≤ (unfinished.value * 64 + (unfinished.low - 0x80)) * 64 ^ unfinished.more

/-- Between two bytes the decoder waits for bytes from 0x80 on, if for any. -/
def GoesHigh (state : Option Unfinished) : Prop := ∀ unfinished ∈ state, unfinished.GoesHigh

theorem goesHigh_none : GoesHigh none := by
  simp [GoesHigh]

theorem goesHigh_some {unfinished : Unfinished} (high : unfinished.GoesHigh) :
    GoesHigh (some unfinished) := by
  simpa [GoesHigh] using high

/-- A first byte from 0x80 on completes no character and leaves the decoder waiting for such bytes. -/
theorem start_high {byte : UInt8} (high : 0x80 ≤ byte.toNat) :
    GoesHigh (step none byte).1 ∧ ∀ c, .character c ∉ (step none byte).2 := by
  by_cases stray : byte.toNat < 0xC2 ∨ 0xF4 < byte.toNat
  · rw [start_stray high stray]
    exact ⟨goesHigh_none, by simp⟩
  by_cases two : byte.toNat < 0xE0
  · rw [start_two byte (by omega) two]
    refine ⟨goesHigh_some ⟨?_, ?_⟩, by simp⟩ <;> dsimp only <;> omega
  by_cases three : byte.toNat < 0xF0
  · rw [start_three byte (by omega) three]
    refine ⟨goesHigh_some ⟨?_, ?_⟩, by simp⟩ <;> dsimp only <;> split <;> omega
  · rw [start_four byte (by omega) (by omega)]
    refine ⟨goesHigh_some ⟨?_, ?_⟩, by simp⟩ <;> dsimp only <;> split <;> omega

theorem start_goesHigh (byte : UInt8) : GoesHigh (step none byte).1 := by
  by_cases ascii : byte.toNat < 0x80
  · rw [start_one ascii]
    exact goesHigh_none
  · exact (start_high (by omega)).1

theorem ofByte_of_started {byte : UInt8} {c : CodePoint}
    (started : .character c ∈ (step none byte).2) : CodePoint.ofByte byte = c := by
  by_cases ascii : byte.toNat < 0x80
  · simpa [start_one ascii, eq_comm] using started
  · exact absurd started ((start_high (by omega)).2 c)

theorem step_outside {unfinished : Unfinished} {byte : UInt8}
    (outside : ¬ (unfinished.low ≤ byte.toNat ∧ byte.toNat ≤ unfinished.high)) :
    step (some unfinished) byte = ((step none byte).1,
      .malformed unfinished.seen.reverse .invalidContinuation :: (step none byte).2) := by
  simp only [step]
  rw [if_neg (by simpa using outside)]

theorem continued_goesHigh {value more low byte : Nat} {seen : Bytes} (above : low ≤ byte)
    (least : 0x80 ≤ (value * 64 + (low - 0x80)) * 64 ^ (more + 1)) :
    Unfinished.GoesHigh ⟨value * 64 + (byte - 0x80), seen, more, 0x80, 0xBF⟩ := by
  refine ⟨le_rfl, ?_⟩
  calc 0x80 ≤ (value * 64 + (low - 0x80)) * 64 ^ (more + 1) := least
    _ ≤ (value * 64 + (byte - 0x80)) * 64 ^ (more + 1) := Nat.mul_le_mul_right _ (by omega)
    _ = ((value * 64 + (byte - 0x80)) * 64 + (0x80 - 0x80)) * 64 ^ more := by
      rw [pow_succ, Nat.sub_self, Nat.add_zero, Nat.mul_comm (64 ^ more), Nat.mul_assoc]

theorem step_goesHigh {state : Option Unfinished} (high : GoesHigh state) (byte : UInt8) :
    GoesHigh (step state byte).1 := by
  cases state with
  | none => exact start_goesHigh byte
  | some unfinished =>
      obtain ⟨-, least⟩ := high unfinished rfl
      by_cases inside : unfinished.low ≤ byte.toNat ∧ byte.toNat ≤ unfinished.high
      · obtain ⟨value, seen, more, first, last⟩ := unfinished
        obtain ⟨above, below⟩ := inside
        cases more with
        | zero =>
            rw [step_last above below]
            exact goesHigh_none
        | succ more =>
            rw [step_more above below]
            exact goesHigh_some (continued_goesHigh above least)
      · rw [step_outside inside]
        exact start_goesHigh byte

/-- A character below 0x80 is completed by its own byte. -/
theorem ofByte_of_completed {state : Option Unfinished} {byte : UInt8} {c : CodePoint}
    (high : GoesHigh state) (completed : .character c ∈ (step state byte).2) (ascii : c.val < 0x80) :
    CodePoint.ofByte byte = c := by
  cases state with
  | none => exact ofByte_of_started completed
  | some unfinished =>
      obtain ⟨-, least⟩ := high unfinished rfl
      by_cases inside : unfinished.low ≤ byte.toNat ∧ byte.toNat ≤ unfinished.high
      · obtain ⟨value, seen, more, first, last⟩ := unfinished
        obtain ⟨above, below⟩ := inside
        cases more with
        | succ more => simp [step_more above below] at completed
        | zero =>
            rw [step_last above below, List.mem_singleton, Piece.character.injEq] at completed
            dsimp only at above least
            rw [pow_zero, Nat.mul_one] at least
            rw [completed, CodePoint.ofNat] at ascii
            split at ascii
            · dsimp only at ascii
              omega
            · exact absurd ascii (by decide)
      · rw [step_outside inside, List.mem_cons] at completed
        exact ofByte_of_started (completed.resolve_left (by simp))

theorem mem_of_character {state : Option Unfinished} {bytes : Bytes} {c : CodePoint}
    (high : GoesHigh state) (read : .character c ∈ readFrom state bytes) (ascii : c.val < 0x80) :
    ∃ byte ∈ bytes, CodePoint.ofByte byte = c := by
  induction bytes generalizing state with
  | nil =>
      cases state <;> simp [readFrom, finish] at read
  | cons byte rest ih =>
      rw [readFrom, List.mem_append] at read
      rcases read with completed | later
      · exact ⟨byte, List.mem_cons_self, ofByte_of_completed high completed ascii⟩
      · obtain ⟨other, member, same⟩ := ih (step_goesHigh high byte) later
        exact ⟨other, List.mem_cons_of_mem byte member, same⟩

theorem mem_of_mem_decodeLossy {bytes : Bytes} {c : CodePoint} (decoded : c ∈ decodeLossy bytes)
    (ascii : c.val < 0x80) : ∃ byte ∈ bytes, CodePoint.ofByte byte = c := by
  rw [decodeLossy, pieces_eq_readFrom, List.mem_map] at decoded
  obtain ⟨piece, read, rfl⟩ := decoded
  cases piece with
  | character c => exact mem_of_character goesHigh_none read ascii
  | malformed bytes defect => exact absurd ascii (by decide : ¬ CodePoint.replacement.val < 0x80)

/-! ## Cutting at an ASCII byte -/

section

variable {α : Type} {view : Piece → List α}

/-- What the decoder shows of a malformed sequence does not depend on what is wrong with it. -/
def IgnoresDefects (view : Piece → List α) : Prop :=
  ∀ bytes defect defect', view (.malformed bytes defect) = view (.malformed bytes defect')

theorem readFrom_append_ascii (ignores : IgnoresDefects view) {byte : UInt8}
    (ascii : byte.toNat < 0x80) (before after : Bytes) {state : Option Unfinished}
    (high : GoesHigh state) :
    (readFrom state (before ++ byte :: after)).flatMap view =
      (readFrom state before).flatMap view ++ view (.character (CodePoint.ofByte byte)) ++
        (readFrom none after).flatMap view := by
  induction before generalizing state with
  | nil =>
      cases state with
      | none => simp [readFrom, start_one ascii, finish]
      | some unfinished =>
          have below : ¬ (unfinished.low ≤ byte.toNat ∧ byte.toNat ≤ unfinished.high) := by
            have low := (high unfinished rfl).low
            omega
          simp [readFrom, step_outside below, start_one ascii, finish,
            ignores _ .invalidContinuation .truncated]
  | cons first before ih =>
      rw [List.cons_append, readFrom, readFrom, List.flatMap_append, List.flatMap_append,
        ih (step_goesHigh high first)]
      simp

theorem pieces_append_ascii (ignores : IgnoresDefects view) {byte : UInt8}
    (ascii : byte.toNat < 0x80) (before after : Bytes) :
    (pieces (before ++ byte :: after)).flatMap view =
      (pieces before).flatMap view ++ view (.character (CodePoint.ofByte byte)) ++
        (pieces after).flatMap view := by
  rw [pieces_eq_readFrom, pieces_eq_readFrom, pieces_eq_readFrom]
  exact readFrom_append_ascii ignores ascii before after goesHigh_none

end

theorem decodeLossy_append_ascii {byte : UInt8} (ascii : byte.toNat < 0x80)
    (before after : Bytes) :
    decodeLossy (before ++ byte :: after) =
      decodeLossy before ++ CodePoint.ofByte byte :: decodeLossy after := by
  have shown (bytes : Bytes) :
      decodeLossy bytes = (pieces bytes).flatMap fun piece => [piece.orReplacement] := by
    rw [decodeLossy, List.map_eq_flatMap]
  rw [shown, shown, shown, pieces_append_ascii (fun _ _ _ => rfl) ascii, List.append_assoc]
  rfl

end Utf8

end LanguageSession
