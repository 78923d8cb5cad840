import Mathlib
import LanguageSession.Frame.Scan

/-!
# Reading a stream in chunks

What stands at the start of a buffer does not change when more bytes arrive, once it is
a whole frame or a header block without a length.  So a buffer may be cut into frames
before or after the rest of the stream is there, and a stream that ends in the middle of
a frame at most is read the same way in any chunks.
-/

namespace LanguageSession

namespace Frame

/-! ## The front of a longer buffer -/

theorem atSeparator_append {bytes : Bytes} (data : Bytes) (h : 4 ≤ bytes.length) :
    atSeparator (bytes ++ data) = atSeparator bytes := by
  match bytes, h with
  | first :: second :: third :: fourth :: rest, _ => rfl

theorem length_of_atSeparator {bytes : Bytes} (h : atSeparator bytes = true) :
    4 ≤ bytes.length := by
  match bytes, h with
  | first :: second :: third :: fourth :: rest, _ => simp

/-- The empty line that was found lies in the buffer. -/
theorem findSeparator_fits {buffer : Bytes} {start position : Nat}
    (found : findSeparator buffer start = some position) :
    start ≤ position ∧ position + separator.length ≤ start + buffer.length := by
  induction buffer generalizing start with
  | nil => simp [findSeparator] at found
  | cons byte rest ih =>
      simp only [findSeparator] at found
      split at found
      · next here =>
        have fits := length_of_atSeparator here
        have same : start = position := by simpa using found
        subst same
        simpa [separator] using fits
      · have later := ih found
        simp only [List.length_cons]
        omega

theorem findSeparator_append {buffer : Bytes} {start position : Nat} (data : Bytes)
    (found : findSeparator buffer start = some position) :
    findSeparator (buffer ++ data) start = some position := by
  induction buffer generalizing start with
  | nil => simp [findSeparator] at found
  | cons byte rest ih =>
      have fits := findSeparator_fits found
      simp only [findSeparator] at found
      simp only [List.cons_append, findSeparator]
      split at found
      · next here =>
        have same := atSeparator_append data (length_of_atSeparator here)
        rw [List.cons_append] at same
        rw [same, here, if_pos rfl, ← found]
      · next elsewhere =>
        have long : 4 ≤ (byte :: rest).length := by
          have later := findSeparator_fits found
          simp only [separator, List.length_cons, List.length_nil] at later ⊢
          omega
        have same := atSeparator_append data long
        rw [List.cons_append] at same
        rw [same, if_neg elsewhere]
        exact ih found

theorem hasBytes_append {length : Nat} {body : Bytes} (data : Bytes)
    (h : hasBytes length body = true) : hasBytes length (body ++ data) = true := by
  rw [hasBytes_iff] at h ⊢
  simp only [List.length_append]
  omega

theorem header_append {buffer : Bytes} {position : Nat} (data : Bytes)
    (found : findSeparator buffer 0 = some position) :
    (buffer ++ data).take position = buffer.take position ∧
      (buffer ++ data).drop (position + separator.length) =
        buffer.drop (position + separator.length) ++ data := by
  have fits := (findSeparator_fits found).2
  constructor
  · exact List.take_append_of_le_length (by omega)
  · exact List.drop_append_of_le_length (by omega)

theorem front_append_frame {buffer payload rest : Bytes} (data : Bytes)
    (h : front buffer = .frame payload rest) :
    front (buffer ++ data) = .frame payload (rest ++ data) := by
  unfold front at h ⊢
  cases found : findSeparator buffer 0 with
  | none => simp [found] at h
  | some position =>
      obtain ⟨block, body⟩ := header_append data found
      rw [found] at h
      rw [findSeparator_append data found]
      simp only [block, body]
      cases declared : contentLength (buffer.take position) with
      | none => simp [declared] at h
      | some length =>
          simp only [declared] at h ⊢
          split at h
          · next enough =>
            rw [if_pos (hasBytes_append data enough)]
            rw [hasBytes_iff] at enough
            cases h
            rw [List.take_append_of_le_length enough, List.drop_append_of_le_length enough]
          · cases h

theorem front_append_stray {buffer : Bytes} (data : Bytes) (h : front buffer = .stray) :
    front (buffer ++ data) = .stray := by
  unfold front at h ⊢
  cases found : findSeparator buffer 0 with
  | none => simp [found] at h
  | some position =>
      obtain ⟨block, -⟩ := header_append data found
      rw [found] at h
      rw [findSeparator_append data found]
      simp only [block]
      cases declared : contentLength (buffer.take position) with
      | none => simp
      | some length =>
          simp only [declared] at h
          split at h <;> cases h

/-! ## Cutting -/

theorem cut_of_incomplete {buffer : Bytes} (h : front buffer = .incomplete) :
    cut buffer = ⟨[], buffer, .incomplete⟩ := by
  rw [cut]
  split <;> simp_all

theorem cut_of_stray {buffer : Bytes} (h : front buffer = .stray) :
    cut buffer = ⟨[], buffer, .stray⟩ := by
  rw [cut]
  split <;> simp_all

theorem cut_of_tooDeep {buffer payload rest : Bytes} {container : Json.Container}
    (h : front buffer = .frame payload rest)
    (read : decodePayload payload = .error container) :
    cut buffer = ⟨[], rest, .tooDeep container⟩ := by
  rw [cut]
  split <;> simp_all

theorem cut_of_frame {buffer payload rest : Bytes} {value : Payload}
    (h : front buffer = .frame payload rest) (read : decodePayload payload = .ok value) :
    cut buffer = { cut rest with payloads := value :: (cut rest).payloads } := by
  rw [cut]
  split <;> simp_all

/-- Cutting ends with no payload before the end, or after a payload with the rest to be cut. -/
theorem cut_cases (buffer : Bytes) :
    (front buffer = .incomplete ∧ cut buffer = ⟨[], buffer, .incomplete⟩) ∨
    (front buffer = .stray ∧ cut buffer = ⟨[], buffer, .stray⟩) ∨
    (∃ payload rest container, front buffer = .frame payload rest ∧
      decodePayload payload = .error container ∧
      cut buffer = ⟨[], rest, .tooDeep container⟩) ∨
    ∃ payload rest value, front buffer = .frame payload rest ∧
      decodePayload payload = .ok value ∧
      cut buffer = { cut rest with payloads := value :: (cut rest).payloads } := by
  cases start : front buffer with
  | incomplete => exact .inl ⟨rfl, cut_of_incomplete start⟩
  | stray => exact .inr (.inl ⟨rfl, cut_of_stray start⟩)
  | frame payload rest =>
      cases read : decodePayload payload with
      | error container =>
          exact .inr (.inr (.inl ⟨payload, rest, container, rfl, read, cut_of_tooDeep start read⟩))
      | ok value =>
          exact .inr (.inr (.inr ⟨payload, rest, value, rfl, read, cut_of_frame start read⟩))

/-- What is kept of a buffer that ends in the middle of a frame is the start of a frame. -/
theorem front_of_cut_incomplete {buffer : Bytes} (h : (cut buffer).ending = .incomplete) :
    front (cut buffer).rest = .incomplete := by
  induction size : buffer.length using Nat.strongRecOn generalizing buffer with
  | ind n ih =>
      rcases cut_cases buffer with ⟨start, same⟩ | ⟨-, same⟩ | ⟨_, _, _, -, -, same⟩ |
        ⟨payload, rest, value, start, -, same⟩
      · simpa [same] using start
      · simp [same] at h
      · simp [same] at h
      · rw [same] at h ⊢
        exact ih rest.length (size ▸ front_rest_shorter start) h rfl

/-- More bytes are cut after the frames that were already there. -/
theorem cut_append {buffer : Bytes} (data : Bytes) (h : (cut buffer).ending = .incomplete) :
    cut (buffer ++ data) =
      { cut ((cut buffer).rest ++ data) with
        payloads := (cut buffer).payloads ++ (cut ((cut buffer).rest ++ data)).payloads } := by
  induction size : buffer.length using Nat.strongRecOn generalizing buffer with
  | ind n ih =>
      rcases cut_cases buffer with ⟨-, same⟩ | ⟨-, same⟩ | ⟨_, _, _, -, -, same⟩ |
        ⟨payload, rest, value, start, read, same⟩
      · simp [same]
      · simp [same] at h
      · simp [same] at h
      · rw [same] at h
        have later := ih rest.length (size ▸ front_rest_shorter start) h rfl
        rw [cut_of_frame (front_append_frame data start) read, later]
        simp [same]

/-- A stream without stray output has none in its beginning, and nothing too deep. -/
theorem cut_beginning {buffer data : Bytes} (h : (cut (buffer ++ data)).ending = .incomplete) :
    (cut buffer).ending = .incomplete := by
  induction size : buffer.length using Nat.strongRecOn generalizing buffer with
  | ind n ih =>
      rcases cut_cases buffer with ⟨-, same⟩ | ⟨start, -⟩ | ⟨_, _, _, start, read, -⟩ |
        ⟨payload, rest, value, start, read, same⟩
      · simp [same]
      · simp [cut_of_stray (front_append_stray data start)] at h
      · simp [cut_of_tooDeep (front_append_frame data start) read] at h
      · rw [cut_of_frame (front_append_frame data start) read] at h
        rw [same]
        exact ih rest.length (size ▸ front_rest_shorter start) h rfl

/-! ## Feeding -/

theorem feed_of_incomplete {buffer data : Bytes}
    (h : (cut (buffer ++ data)).ending = .incomplete) :
    feed buffer data =
      ⟨(cut (buffer ++ data)).payloads.filterMap Payload.message?,
        (cut (buffer ++ data)).payloads.filterMap Payload.note?, none,
        (cut (buffer ++ data)).rest, none⟩ := by
  simp only [feed, h]

def kept (buffer : Bytes) (feeds : List Feed) : Bytes :=
  (feeds.getLast?.map Feed.buffer).getD buffer

@[simp] theorem kept_nil (buffer : Bytes) : kept buffer [] = buffer := rfl

@[simp] theorem kept_cons (buffer : Bytes) (first : Feed) (rest : List Feed) :
    kept buffer (first :: rest) = kept first.buffer rest := by
  cases rest with
  | nil => rfl
  | cons second rest => simp [kept, List.getLast?_cons]

/--
A stream that ends in the middle of a frame at most is read in chunks as it is read in
one piece, wherever the chunks begin and end.
-/
theorem feedAll_of_incomplete {buffer : Bytes} (chunks : List Bytes)
    (start : front buffer = .incomplete)
    (whole : (cut (buffer ++ chunks.flatten)).ending = .incomplete) :
    let found := cut (buffer ++ chunks.flatten)
    let feeds := feedAll buffer chunks
    feeds.length = chunks.length ∧
      feeds.flatMap Feed.messages = found.payloads.filterMap Payload.message? ∧
      feeds.flatMap Feed.notes = found.payloads.filterMap Payload.note? ∧
      (∀ fed ∈ feeds, fed.stray = none ∧ fed.fault = none) ∧
      kept buffer feeds = found.rest := by
  induction chunks generalizing buffer with
  | nil => simp [feedAll, cut_of_incomplete start]
  | cons chunk chunks ih =>
      rw [List.flatten_cons, ← List.append_assoc] at whole ⊢
      have first := cut_beginning whole
      have fed := feed_of_incomplete first
      have later := cut_append chunks.flatten first
      rw [later] at whole
      obtain ⟨count, messages, notes, quiet, rest⟩ := ih (front_of_cut_incomplete first) whole
      simp only [feedAll, fed, Option.isSome_none, Bool.false_eq_true, if_false, later,
        List.length_cons, List.flatMap_cons, List.filterMap_append, kept_cons,
        List.forall_mem_cons, true_and]
      exact ⟨by rw [count], by rw [messages], by rw [notes], quiet, rest⟩

end Frame

end LanguageSession
