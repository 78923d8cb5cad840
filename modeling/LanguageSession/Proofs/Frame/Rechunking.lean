import Mathlib
import LanguageSession.Proofs.Frame.Chunks

/-!
# Reading one stream in two ways

Any bytes at all may be read in other chunks: stray output is found in both runs or in neither,
and up to there the messages are the same.  A payload with too many values inside each other is
found in both runs as well, but it takes the messages with it that came in the same chunk.
-/

namespace LanguageSession

namespace Frame

/-! ## Longer buffers that are cut no further -/

theorem cut_append_stray {buffer : Bytes} (data : Bytes) (h : (cut buffer).ending = .stray) :
    cut (buffer ++ data) = { cut buffer with rest := (cut buffer).rest ++ data } := by
  induction size : buffer.length using Nat.strongRecOn generalizing buffer with
  | ind n ih =>
      rcases cut_cases buffer with ⟨-, same⟩ | ⟨start, same⟩ | ⟨_, _, _, -, -, same⟩ |
        ⟨payload, rest, value, start, read, same⟩
      · simp [same] at h
      · simp [same, cut_of_stray (front_append_stray data start)]
      · simp [same] at h
      · rw [same] at h
        have later := ih rest.length (size ▸ front_rest_shorter start) h rfl
        rw [cut_of_frame (front_append_frame data start) read, later, same]

theorem cut_append_tooDeep {buffer : Bytes} {container : Json.Container} (data : Bytes)
    (h : (cut buffer).ending = .tooDeep container) :
    cut (buffer ++ data) = { cut buffer with rest := (cut buffer).rest ++ data } := by
  induction size : buffer.length using Nat.strongRecOn generalizing buffer with
  | ind n ih =>
      rcases cut_cases buffer with ⟨-, same⟩ | ⟨-, same⟩ | ⟨_, _, _, start, read, same⟩ |
        ⟨payload, rest, value, start, read, same⟩
      · simp [same] at h
      · simp [same] at h
      · simp [same, cut_of_tooDeep (front_append_frame data start) read]
      · rw [same] at h
        have later := ih rest.length (size ▸ front_rest_shorter start) h rfl
        rw [cut_of_frame (front_append_frame data start) read, later, same]

/-! ## Feeding as far as stray output or a payload that is too deep -/

/-- The messages in the frames of a stream, as far as it can be cut. -/
def messagesIn (stream : Bytes) : List Json := (cut stream).payloads.filterMap Payload.message?

/-- A run as far as the first chunk with stray output. -/
def untilStray : List Feed → List Feed
  | [] => []
  | fed :: feeds => if fed.stray.isSome then [fed] else fed :: untilStray feeds

/-- What stopped the reading, unless stray output came first. -/
def stoppedBy (feeds : List Feed) : Option Fault := (untilStray feeds).findSome? Feed.fault

/-- The messages that were returned before and along with the first stray output. -/
def returned (feeds : List Feed) : List Json := (untilStray feeds).flatMap Feed.messages

def strayed (feeds : List Feed) : Bool := feeds.any fun fed => fed.stray.isSome

theorem messagesIn_append {buffer : Bytes} (data : Bytes)
    (h : (cut buffer).ending = .incomplete) :
    messagesIn (buffer ++ data) = messagesIn buffer ++ messagesIn ((cut buffer).rest ++ data) := by
  simp only [messagesIn, cut_append data h, List.filterMap_append]

theorem feed_of_stray {buffer data : Bytes} (h : (cut (buffer ++ data)).ending = .stray) :
    feed buffer data = ⟨messagesIn (buffer ++ data),
      (cut (buffer ++ data)).payloads.filterMap Payload.note?,
      some (Utf8.decodeLossy (cut (buffer ++ data)).rest), [], none⟩ := by
  simp only [feed, h, messagesIn]

theorem feed_of_tooDeep {buffer data : Bytes} {container : Json.Container}
    (h : (cut (buffer ++ data)).ending = .tooDeep container) :
    feed buffer data = ⟨[], (cut (buffer ++ data)).payloads.filterMap Payload.note?, none,
      (cut (buffer ++ data)).rest, some (.tooDeep container)⟩ := by
  simp only [feed, h]

theorem untilStray_cons_quiet {fed : Feed} (quiet : fed.stray = none) (feeds : List Feed) :
    untilStray (fed :: feeds) = fed :: untilStray feeds := by
  simp [untilStray, quiet]

/-- What the chunks of a stream show of it, after the bytes that were kept before. -/
inductive Reading (buffer stream : Bytes) (feeds : List Feed) : Prop
  /-- All of it was read. -/
  | whole (ending : (cut stream).ending = .incomplete) (quiet : strayed feeds = false)
      (free : stoppedBy feeds = none) (messages : returned feeds = messagesIn stream)
      (all : untilStray feeds = feeds) (rest : kept buffer feeds = (cut stream).rest)
  /-- It was read as far as stray output. -/
  | stray (ending : (cut stream).ending = .stray) (strays : strayed feeds = true)
      (free : stoppedBy feeds = none) (messages : returned feeds = messagesIn stream)
  /-- It was read as far as a payload that is too deep. -/
  | tooDeep (container : Json.Container) (ending : (cut stream).ending = .tooDeep container)
      (quiet : strayed feeds = false) (stopped : stoppedBy feeds = some (.tooDeep container))
      (messages : returned feeds <+: messagesIn stream)

/-- Frames that were read in an earlier chunk come before what is read later. -/
theorem Reading.after {buffer data stream : Bytes} {feeds : List Feed}
    (first : (cut (buffer ++ data)).ending = .incomplete)
    (later : Reading (cut (buffer ++ data)).rest ((cut (buffer ++ data)).rest ++ stream) feeds) :
    Reading buffer (buffer ++ data ++ stream) (feed buffer data :: feeds) := by
  have fed := feed_of_incomplete first
  have cutting := cut_append stream first
  have split : messagesIn (buffer ++ data ++ stream) =
      (feed buffer data).messages ++ messagesIn ((cut (buffer ++ data)).rest ++ stream) := by
    rw [messagesIn_append stream first, fed, messagesIn]
  have read := untilStray_cons_quiet (by rw [fed] : (feed buffer data).stray = none) feeds
  have free : (feed buffer data).fault = none := by rw [fed]
  have quiet : strayed (feed buffer data :: feeds) = strayed feeds := by simp [strayed, fed]
  have stopping : stoppedBy (feed buffer data :: feeds) = stoppedBy feeds := by
    simp [stoppedBy, read, free]
  have answers : returned (feed buffer data :: feeds) =
      (feed buffer data).messages ++ returned feeds := by
    simp [returned, read]
  have ending : (cut (buffer ++ data ++ stream)).ending =
      (cut ((cut (buffer ++ data)).rest ++ stream)).ending := by rw [cutting]
  cases later with
  | whole same silent goes messages all rest =>
      refine .whole (ending.trans same) (quiet.trans silent) (stopping.trans goes) ?_ ?_ ?_
      · rw [answers, messages, split]
      · rw [read, all]
      · rw [kept_cons, fed, rest, cutting]
  | stray same strays goes messages =>
      refine .stray (ending.trans same) (quiet.trans strays) (stopping.trans goes) ?_
      rw [answers, messages, split]
  | tooDeep container same silent stops messages =>
      refine .tooDeep container (ending.trans same) (quiet.trans silent)
        (stopping.trans stops) ?_
      rw [answers, split]
      exact (List.prefix_append_right_inj _).mpr messages

/--
The induction is on the chunks: what is kept after a chunk is the start of a frame, and the
chunk that holds stray output or a payload that is too deep decides about the whole stream.
-/
theorem feedAll_reading {buffer : Bytes} (chunks : List Bytes)
    (start : front buffer = .incomplete) :
    Reading buffer (buffer ++ chunks.flatten) (feedAll buffer chunks) := by
  induction chunks generalizing buffer with
  | nil =>
      have nothing := cut_of_incomplete start
      refine .whole ?_ rfl rfl ?_ rfl ?_ <;>
        simp [nothing, feedAll, returned, untilStray, messagesIn]
  | cons chunk chunks ih =>
      rw [List.flatten_cons, ← List.append_assoc]
      cases first : (cut (buffer ++ chunk)).ending with
      | incomplete =>
          have going : (feed buffer chunk).fault.isSome = false := by
            rw [feed_of_incomplete first]; rfl
          have buffered : (feed buffer chunk).buffer = (cut (buffer ++ chunk)).rest := by
            rw [feed_of_incomplete first]
          simp only [feedAll, going, Bool.false_eq_true, if_false, buffered]
          exact .after first (ih (front_of_cut_incomplete first))
      | stray =>
          have whole := cut_append_stray chunks.flatten first
          have fed := feed_of_stray first
          simp only [feedAll, fed, Option.isSome_none, Bool.false_eq_true, if_false]
          refine .stray (by rw [whole, first]) rfl rfl ?_
          simp only [messagesIn, whole]
          simp [returned, untilStray]
      | tooDeep container =>
          have whole := cut_append_tooDeep chunks.flatten first
          have fed := feed_of_tooDeep first
          simp only [feedAll, fed, Option.isSome_some, if_true]
          refine .tooDeep container (by rw [whole, first]) rfl rfl ?_
          simp [returned, untilStray]

/--
One stream in two lists of chunks.  Stray output is found in both runs or in neither, and so is a
payload that is too deep before any stray output.  Without such a payload the messages up to the
stray output are the same, and if there is none everything is; with it one run returns a beginning
of what the other returns.
-/
theorem feedAll_rechunked {chunks chunks' : List Bytes} (same : chunks.flatten = chunks'.flatten) :
    strayed (feedAll [] chunks) = strayed (feedAll [] chunks') ∧
      stoppedBy (feedAll [] chunks) = stoppedBy (feedAll [] chunks') ∧
      (stoppedBy (feedAll [] chunks) = none →
        returned (feedAll [] chunks) = returned (feedAll [] chunks') ∧
          (strayed (feedAll [] chunks) = false →
            (feedAll [] chunks).flatMap Feed.messages =
                (feedAll [] chunks').flatMap Feed.messages ∧
              kept [] (feedAll [] chunks) = kept [] (feedAll [] chunks'))) ∧
      (returned (feedAll [] chunks) <+: returned (feedAll [] chunks') ∨
        returned (feedAll [] chunks') <+: returned (feedAll [] chunks)) := by
  have one := feedAll_reading chunks (rfl : front [] = .incomplete)
  have other := feedAll_reading chunks' (rfl : front [] = .incomplete)
  simp only [List.nil_append, ← same] at one other
  -- both runs read one stream, so how it ends tells how each of them ended
  cases one with
  | whole ending quiet free messages all rest =>
      cases other with
      | whole _ quiet' free' messages' all' rest' =>
          have equal := messages.trans messages'.symm
          refine ⟨quiet.trans quiet'.symm, free.trans free'.symm, fun _ => ⟨equal, fun _ => ?_⟩,
            .inl (equal ▸ List.prefix_rfl)⟩
          simp only [returned, all, all'] at equal
          exact ⟨equal, rest.trans rest'.symm⟩
      | stray ending' => simp [ending] at ending'
      | tooDeep _ ending' => simp [ending] at ending'
  | stray ending strays free messages =>
      cases other with
      | whole ending' => simp [ending] at ending'
      | stray _ strays' free' messages' =>
          have equal := messages.trans messages'.symm
          exact ⟨strays.trans strays'.symm, free.trans free'.symm,
            fun _ => ⟨equal, fun quiet => by simp [strays] at quiet⟩,
            .inl (equal ▸ List.prefix_rfl)⟩
      | tooDeep _ ending' => simp [ending] at ending'
  | tooDeep container ending quiet stopped messages =>
      cases other with
      | whole ending' => simp [ending] at ending'
      | stray ending' => simp [ending] at ending'
      | tooDeep container' ending' quiet' stopped' messages' =>
          obtain rfl : container = container' := by simpa [ending] using ending'
          exact ⟨quiet.trans quiet'.symm, stopped.trans stopped'.symm,
            fun free => by simp [stopped] at free,
            List.prefix_or_prefix_of_prefix messages messages'⟩

/-- A message, a payload that is none, stray output and another message. -/
def noisyStream : Bytes :=
  ("Content-Length: 2\r\n\r\n\x7b\x7dContent-Length: 1\r\n\r\n?" ++
    "oops\r\n\r\nContent-Length: 2\r\n\r\n\x7b\x7d").toUTF8.toList

/-- Byte by byte the stray output is found earlier, and what follows it is read. -/
theorem feedAll_rechunked_of_bytes :
    let bytes := noisyStream.map fun byte => [byte]
    [noisyStream].flatten = bytes.flatten ∧
      strayed (feedAll [] bytes) = true ∧
      returned (feedAll [] bytes) = [.object []] := by
  intro bytes
  have same : [noisyStream].flatten = bytes.flatten := by
    simp [bytes, ← List.flatMap_def]
  obtain ⟨strays, stops, agree, -⟩ := feedAll_rechunked same
  have free : stoppedBy (feedAll [] [noisyStream]) = none := by
    with_unfolding_all rfl
  have first : strayed (feedAll [] [noisyStream]) = true := by decide +kernel
  have messages : returned (feedAll [] [noisyStream]) = [.object []] := by
    with_unfolding_all rfl
  exact ⟨same, strays ▸ first, (agree free).1 ▸ messages⟩

end Frame

end LanguageSession
