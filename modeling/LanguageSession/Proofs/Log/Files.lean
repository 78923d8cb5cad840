import Mathlib
import LanguageSession.Log.Files
import LanguageSession.Proofs.Association
import LanguageSession.Proofs.FilePath

/-!
# Files of log records

A record adds its line to the file of its own level and leaves all other files alone.  The
files of the levels lie in one folder and are told apart by their names.
-/

namespace LanguageSession

namespace Log

/-! ## Paths -/

theorem isName_of_mem_fileLevels {entry : Level × Text} (member : entry ∈ fileLevels) :
    FilePath.IsName entry.2 := by
  have each : ∀ entry ∈ fileLevels, entry.2.Plain ∧ FilePath.slash ∉ entry.2 ∧ entry.2 ≠ [] ∧
      entry.2 ≠ [FilePath.dot] ∧ entry.2 ≠ FilePath.upward := by decide
  obtain ⟨plain, single, nonempty, moves, downward⟩ := each entry member
  exact ⟨plain, single, nonempty, moves, downward⟩

theorem mem_fileLevels {level : Level} {name : Text} (named : fileName? level = some name) :
    (level, name) ∈ fileLevels := by
  cases level <;> cases named <;> decide

theorem filePath_eq {name : Text} (directory : Text) (isName : FilePath.IsName name) :
    filePath directory name = FilePath.folderPath (FilePath.givenBack directory) ++ name := by
  have slash : directory ++ "/" ++ name = directory ++ FilePath.slash :: name := by
    rw [List.append_assoc]
    rfl
  rw [filePath, slash, FilePath.givenBack_append_cons (by decide),
    FilePath.givenBack_of_plain isName.plain, FilePath.normal_append_slash isName]

theorem eq_of_filePath_eq {directory name other : Text} {level level' : Level}
    (named : fileName? level = some name) (named' : fileName? level' = some other)
    (same : filePath directory name = filePath directory other) : level = level' := by
  have first := mem_fileLevels named
  have second := mem_fileLevels named'
  rw [filePath_eq _ (isName_of_mem_fileLevels first),
    filePath_eq _ (isName_of_mem_fileLevels second), List.append_cancel_left_eq] at same
  have distinct : ∀ entry ∈ fileLevels, ∀ entry' ∈ fileLevels,
      entry.2 = entry'.2 → entry.1 = entry'.1 := by decide
  exact distinct _ first _ second same

/-! ## Contents -/

def Files.content (files : Files) (path : Text) : Text := (files.contents.lookup path).getD []

theorem lookup_append (path other text : Text) (contents : List (Text × Text)) :
    ((append path text contents).lookup other).getD [] =
      (contents.lookup other).getD [] ++ if other = path then text else [] := by
  rw [append, Association.lookup_put]
  split
  · next same => simp [same]
  · simp

/-! ## Handlers -/

theorem admits_iff {handler : Handler} {level : Level} :
    handler.admits level = true ↔ handler.level = level := by
  rw [Handler.admits, Bool.and_eq_true, decide_eq_true_eq, decide_eq_true_eq]
  constructor
  · exact fun admitted => admitted.2.symm
  · rintro rfl
    exact ⟨le_rfl, rfl⟩

/-- What a record adds to a file through a handler. -/
def Handler.addition (handler : Handler) (path : Text) (entry : Stamp × Record) : Text :=
  if handler.admits entry.2.level && path = handler.path then
    (line? handler.sink entry.1 entry.2).getD []
  else []

theorem content_emit (handler : Handler) (stamp : Stamp) (record : Record) (path : Text)
    (contents : List (Text × Text)) :
    ((handler.emit stamp record contents).lookup path).getD [] =
      (contents.lookup path).getD [] ++ handler.addition path (stamp, record) := by
  unfold Handler.emit Handler.addition
  cases handler.admits record.level with
  | false => simp
  | true =>
      simp only [if_true, Bool.true_and, decide_eq_true_eq]
      cases line? handler.sink stamp record with
      | none => simp
      | some line => exact lookup_append _ path line contents

theorem content_write_handlers (files : Files) (stamp : Stamp) (record : Record) (path : Text) :
    (files.write stamp record).content path =
      files.content path ++ files.handlers.flatMap fun handler =>
        handler.addition path (stamp, record) := by
  rw [Files.content, Files.write, Files.content]
  generalize files.contents = contents
  induction files.handlers generalizing contents with
  | nil => simp
  | cons handler rest ih =>
      rw [List.foldl_cons, ih, content_emit, List.flatMap_cons, List.append_assoc]

/-- Of handlers of distinct levels at most one takes a record. -/
theorem flatMap_handlers {handlers : List Handler} (distinct : (handlers.map Handler.level).Nodup)
    (path : Text) (entry : Stamp × Record) :
    (handlers.flatMap fun handler => handler.addition path entry) =
      match handlers.find? fun handler => handler.level = entry.2.level with
      | some handler => handler.addition path entry
      | none => [] := by
  induction handlers with
  | nil => rfl
  | cons handler rest ih =>
      rw [List.map_cons, List.nodup_cons] at distinct
      rw [List.flatMap_cons, List.find?_cons]
      by_cases own : handler.level = entry.2.level
      · have others : ∀ other ∈ rest, other.addition path entry = [] := by
          intro other member
          have different : other.level ≠ entry.2.level := fun same =>
            distinct.1 (own.trans same.symm ▸ List.mem_map_of_mem member)
          simp [Handler.addition, different, admits_iff]
        rw [List.flatMap_eq_nil_iff.mpr others, List.append_nil]
        simp [own]
      · have nothing : handler.addition path entry = [] := by
          simp [Handler.addition, own, admits_iff]
        rw [nothing, ih distinct.2]
        simp [own]

theorem handlers_distinct (sink : Sink) : (sink.handlers.map Handler.level).Nodup := by
  have levels : sink.handlers.map Handler.level =
      (fileLevels.filter fun entry => sink.accepts entry.1).map Prod.fst := by
    simp [Sink.handlers]
  have distinct : (fileLevels.map Prod.fst).Nodup := by decide
  rw [levels]
  exact distinct.sublist (List.filter_sublist.map Prod.fst)

theorem mem_handlers_iff {sink : Sink} {handler : Handler} :
    handler ∈ sink.handlers ↔ handler.sink = sink ∧ sink.accepts handler.level = true ∧
      fileName? handler.level = some handler.name := by
  rw [Sink.handlers, List.mem_map]
  constructor
  · rintro ⟨⟨level, name⟩, member, rfl⟩
    have named : ∀ entry ∈ fileLevels, fileName? entry.1 = some entry.2 := by decide
    exact ⟨rfl, (List.mem_filter.mp member).2, named _ (List.mem_filter.mp member).1⟩
  · obtain ⟨own, level, name⟩ := handler
    rintro ⟨rfl, accepted, named⟩
    exact ⟨(level, name), List.mem_filter.mpr ⟨mem_fileLevels named, accepted⟩, rfl⟩

/-- What a record adds to a file. -/
def Sink.addition (sink : Sink) (path : Text) (entry : Stamp × Record) : Text :=
  match fileName? entry.2.level with
  | some name =>
    if sink.accepts entry.2.level && path = filePath sink.directory name then
      (line? sink entry.1 entry.2).getD []
    else []
  | none => []

theorem addition_of_mem {sink : Sink} {handler : Handler} (member : handler ∈ sink.handlers)
    {entry : Stamp × Record} (own : handler.level = entry.2.level) (path : Text) :
    handler.addition path entry = sink.addition path entry := by
  obtain ⟨rfl, accepted, named⟩ := mem_handlers_iff.mp member
  rw [own] at accepted named
  rw [Handler.addition, admits_iff.mpr own, Sink.addition, named]
  dsimp only
  rw [accepted]
  rfl

/-- Of some of the handlers of a configuration, none takes the record or just one. -/
theorem flatMap_of_sublist {handlers : List Handler} {sink : Sink}
    (part : handlers.Sublist sink.handlers) (path : Text) (entry : Stamp × Record) :
    (handlers.flatMap fun handler => handler.addition path entry) =
      if handlers.any fun handler => handler.level = entry.2.level then sink.addition path entry
      else [] := by
  rw [flatMap_handlers ((handlers_distinct sink).sublist (part.map Handler.level))]
  cases found : handlers.find? fun handler => handler.level = entry.2.level with
  | none =>
      rw [if_neg]
      simpa using found
  | some handler =>
      have member := List.mem_of_find?_eq_some found
      have own : handler.level = entry.2.level := by simpa using List.find?_some found
      rw [if_pos (List.any_eq_true.mpr ⟨handler, member, by simpa using own⟩)]
      exact addition_of_mem (part.mem member) own path

/-- Of all handlers of a configuration, just the one of its level takes the record. -/
theorem flatMap_of_handlers (sink : Sink) (path : Text) (entry : Stamp × Record) :
    (sink.handlers.flatMap fun handler => handler.addition path entry) =
      sink.addition path entry := by
  rw [flatMap_of_sublist (.refl _)]
  split
  · rfl
  · next missing =>
    unfold Sink.addition
    split
    · next name named =>
      refine (if_neg fun reached => missing ?_).symm
      have accepted := (Bool.and_eq_true _ _ ▸ reached).1
      exact List.any_eq_true.mpr
        ⟨⟨sink, entry.2.level, name⟩, mem_handlers_iff.mpr ⟨rfl, accepted, named⟩, by simp⟩
    · rfl

theorem content_write {files : Files} {sink : Sink} (opened : files.sink = some sink)
    (stamp : Stamp) (record : Record) (path : Text) :
    (files.write stamp record).content path =
      files.content path ++ sink.addition path (stamp, record) := by
  have handlers : files.handlers = sink.handlers := by rw [Files.handlers, opened]
  rw [content_write_handlers, handlers, flatMap_of_handlers]

theorem sink_write (files : Files) (stamp : Stamp) (record : Record) :
    (files.write stamp record).sink = files.sink := rfl

def Files.writeAll (files : Files) (entries : List (Stamp × Record)) : Files :=
  entries.foldl (fun files entry => files.write entry.1 entry.2) files

theorem content_writeAll {files : Files} {sink : Sink} (opened : files.sink = some sink)
    (entries : List (Stamp × Record)) (path : Text) :
    (files.writeAll entries).content path =
      files.content path ++ entries.flatMap (sink.addition path) := by
  induction entries generalizing files with
  | nil => simp [Files.writeAll]
  | cons entry entries ih =>
      have later := ih ((sink_write files entry.1 entry.2).trans opened)
      rw [content_write opened, List.append_assoc] at later
      exact later

/-- The file of a level receives the lines of the records of this level. -/
theorem flatMap_addition {sink : Sink} {level : Level} {name : Text}
    (named : fileName? level = some name) (accepted : sink.accepts level = true)
    (entries : List (Stamp × Record)) :
    entries.flatMap (sink.addition (filePath sink.directory name)) =
      (entries.filter fun entry => entry.2.level = level).flatMap fun entry =>
        (line? sink entry.1 entry.2).getD [] := by
  induction entries with
  | nil => rfl
  | cons entry entries ih =>
      rw [List.flatMap_cons, ih, List.filter_cons]
      by_cases same : entry.2.level = level
      · simp [Sink.addition, same, named, accepted]
      · have nothing : sink.addition (filePath sink.directory name) entry = [] := by
          unfold Sink.addition
          split
          · next other named' =>
            refine if_neg ?_
            rw [Bool.and_eq_true, decide_eq_true_eq]
            exact fun reached => same (eq_of_filePath_eq named' named reached.2.symm)
          · rfl
        simp [nothing, same]

/-! ## Opening files -/

/-- Opening files changes no content, and what is open is told by the remainder. -/
theorem openAll_remainder (handlers : List Handler) (files : Files) :
    (files.openAll handlers).2.sink = files.sink ∧
      (∀ path, (files.openAll handlers).2.content path = files.content path) ∧
      ∃ opened, opened <+: handlers ∧
        (files.openAll handlers).2.remainder = files.remainder ++ opened := by
  induction handlers generalizing files with
  | nil => exact ⟨rfl, fun _ => rfl, [], List.prefix_rfl, (List.append_nil _).symm⟩
  | cons handler rest ih =>
      rw [Files.openAll]
      split
      · exact ⟨rfl, fun _ => rfl, [], List.nil_prefix, (List.append_nil _).symm⟩
      · obtain ⟨sink, content, opened, part, remainder⟩ := ih
          { files with
            remainder := files.remainder ++ [handler]
            contents := append handler.path [] files.contents }
        refine ⟨sink, fun path => (content path).trans ?_, handler :: opened,
          List.cons_prefix_cons.mpr ⟨rfl, part⟩, remainder.trans (List.append_assoc _ _ _)⟩
        rw [Files.content, lookup_append]
        simp [Files.content]

theorem openAll_eq_error {handlers : List Handler} {files : Files} {fault : Fault}
    (failed : (files.openAll handlers).1 = .error fault) :
    ∃ handler ∈ handlers, files.tree.isFolder (FilePath.place handler.path) = true := by
  induction handlers generalizing files with
  | nil => cases failed
  | cons handler rest ih =>
      rw [Files.openAll] at failed
      split at failed
      · next isFolder => exact ⟨handler, List.mem_cons_self, isFolder⟩
      · obtain ⟨other, member, isFolder⟩ := ih failed
        exact ⟨other, List.mem_cons_of_mem handler member, isFolder⟩

/-! ## Configurations -/

/-- The least rank that a request asks for, that of `INFO` if the name of the level is unknown. -/
def Request.minimum (request : Request) : Nat := (levelRanks.lookup request.level.upper).getD 20

/-- Where a request sends records, whatever the name of its level stands for. -/
def Request.target (request : Request) (stamp : Stamp) : Sink :=
  ⟨request.minimum, request.folder stamp, request.json⟩

theorem rankOf_cases (level : Text) :
    (∃ kind, otherNames.lookup level.upper = some kind ∧ rankOf level = .error (.notALevel kind)) ∨
      rankOf level = .ok ((levelRanks.lookup level.upper).getD 20) := by
  unfold rankOf
  split
  · next kind named => exact .inl ⟨kind, named, rfl⟩
  · exact .inr rfl

theorem sink_cases (request : Request) (stamp : Stamp) :
    (∃ kind, otherNames.lookup request.level.upper = some kind ∧
      request.sink stamp = .error (.notALevel kind)) ∨
      request.sink stamp = .ok (request.target stamp) := by
  unfold Request.sink
  obtain ⟨kind, named, refused⟩ | known := rankOf_cases request.level
  · rw [refused]
    exact .inl ⟨kind, named, rfl⟩
  · rw [known]
    exact .inr rfl

/-- Files are opened for all levels from the minimum on, or for the first few of them. -/
theorem openFor_cases (files : Files) (bare : files.sink = none ∧ files.remainder = [])
    (stamp : Stamp) (request : Request) :
    (∀ path, (files.openFor stamp request).2.content path = files.content path) ∧
      ((files.openFor stamp request).1 = .ok () ∧ request.sink stamp = .ok (request.target stamp) ∧
          (files.openFor stamp request).2.sink = some (request.target stamp) ∨
        ((∃ kind, otherNames.lookup request.level.upper = some kind) ∨
            ∃ handler ∈ (request.target stamp).handlers,
              files.tree.isFolder (FilePath.place handler.path) = true) ∧
          (∃ fault, (files.openFor stamp request).1 = .error fault) ∧
          (files.openFor stamp request).2.handlers.Sublist (request.target stamp).handlers) := by
  unfold Files.openFor
  obtain ⟨kind, named, refused⟩ | asked := sink_cases request stamp
  · rw [refused]
    -- a level that is refused is refused before any file is opened
    have none : files.handlers = [] := by rw [Files.handlers, bare.1, bare.2]
    exact ⟨fun _ => rfl, .inr ⟨.inl ⟨kind, named⟩, ⟨_, rfl⟩, none ▸ List.nil_sublist _⟩⟩
  · rw [asked]
    dsimp only
    -- what is open after a refusal is a first part of the files that were asked for
    obtain ⟨sink, same, opened, part, remainder⟩ :=
      openAll_remainder (request.target stamp).handlers files
    rcases ends : files.openAll (request.target stamp).handlers with ⟨fault | _, after⟩
    · rw [ends] at sink same remainder
      have left : after.handlers = opened := by
        rw [Files.handlers, sink, bare.1]
        exact remainder.trans (bare.2 ▸ List.nil_append opened)
      exact ⟨same, .inr ⟨.inr (openAll_eq_error (congrArg Prod.fst ends)), ⟨fault, rfl⟩,
        left ▸ part.sublist⟩⟩
    · rw [ends] at same
      exact ⟨same, .inl ⟨rfl, rfl, rfl⟩⟩

/-- Why a configuration is refused. -/
inductive Refused (files : Files) (stamp : Stamp) (request : Request) : Prop
  | folder (error : FolderError)
      (failed : (files.tree.makeFolder (request.folder stamp)).1 = .error error)
  | level (kind : Text) (named : otherNames.lookup request.level.upper = some kind)
  /-- Where a file should be there is a folder. -/
  | taken (handler : Handler) (member : handler ∈ (request.target stamp).handlers)
      (isFolder : (files.tree.makeFolder (request.folder stamp)).2.isFolder
        (FilePath.place handler.path) = true)

/--
A configuration changes no content.  It ends well with all its files open, or it is refused with
some of them open.
-/
theorem reconfigure_cases (files : Files) (stamp : Stamp) (request : Request) :
    (∀ path, (files.reconfigure stamp request).2.content path = files.content path) ∧
      ((files.reconfigure stamp request).1 = .ok () ∧
          request.sink stamp = .ok (request.target stamp) ∧
          (files.reconfigure stamp request).2.sink = some (request.target stamp) ∨
        Refused files stamp request ∧
          (∃ fault, (files.reconfigure stamp request).1 = .error fault) ∧
          (files.reconfigure stamp request).2.handlers.Sublist (request.target stamp).handlers) := by
  unfold Files.reconfigure
  dsimp only
  rcases made : files.tree.makeFolder (request.folder stamp) with ⟨error | _, tree⟩
  · exact ⟨fun _ => rfl, .inr ⟨.folder error (congrArg Prod.fst made), ⟨_, rfl⟩,
      List.nil_sublist _⟩⟩
  · dsimp only
    obtain ⟨same, success | ⟨cause, failure⟩⟩ :=
      openFor_cases ⟨none, [], tree.folders, files.contents⟩ ⟨rfl, rfl⟩ stamp request
    · exact ⟨same, .inl success⟩
    · refine ⟨same, .inr ⟨?_, failure⟩⟩
      obtain ⟨kind, named⟩ | ⟨handler, member, isFolder⟩ := cause
      · exact .level kind named
      · refine .taken handler member ?_
        rw [made]
        exact isFolder

theorem configure_eq_ok {files opened : Files} {stamp : Stamp} {request : Request}
    (configured : files.configure stamp request = .ok opened) (enabled : request.enabled = true) :
    (∃ sink, request.sink stamp = .ok sink ∧ opened.sink = some sink) ∧
      ∀ path, opened.content path = files.content path := by
  rw [Files.configure, Files.attempt, if_pos enabled] at configured
  have ends := reconfigure_cases files stamp request
  revert configured ends
  rcases files.reconfigure stamp request with ⟨fault | _, after⟩
  · intro configured
    cases configured
  · rintro configured ⟨same, ⟨-, asked, sunk⟩ | ⟨-, ⟨fault, failed⟩, -⟩⟩
    · cases configured
      exact ⟨⟨_, asked, sunk⟩, same⟩
    · cases failed

end Log

end LanguageSession
