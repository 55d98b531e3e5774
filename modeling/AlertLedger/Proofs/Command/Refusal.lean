/-
# Streams that are refused

A replay reads the whole stream before it does anything else. If the stream is refused, the run ends
there: the files are as they were, no sink was chosen, and nothing was emitted
(`Run.replay_of_refused`). It makes no difference how many operations stand before the line for
which it is refused, nor which sink the configuration asks for.

The main result, `Run.replay_all_or_nothing`, says which streams are refused and for what, and what
an invocation makes of it.
-/
import AlertLedger.Proofs.Command.Replay
import AlertLedger.Proofs.Operation.Lines

namespace AlertLedger

/-! ### Runs that end in a complaint -/

namespace Run

section

variable {α β : Type} {x : Run α} {f : α → Run β} {p p' : Progress}

/-- A run goes on from its first part if that succeeds. -/
lemma bind_of_ok {a : α} (h : x.run.run p = (.ok a, p')) :
    (x >>= f).run.run p = (f a).run.run p' := by
  rw [ExceptT.run_bind, StateT.run_bind, h]
  rfl

lemma run_orComplain_ok {ε : Type} {message : String} {cause : ε → Complaint} {a : α} :
    (orComplain message cause (.ok a)).run.run p = (.ok a, p) := rfl

/-- A run ends with its first part if that fails. -/
lemma bind_of_error {complaint : Complaint} (h : x.run.run p = (.error complaint, p')) :
    (x >>= f).run.run p = (.error complaint, p') := by
  rw [ExceptT.run_bind, StateT.run_bind, h]
  rfl

end

/-- What is complained of when the stream at a path is refused. -/
def refusal (path : String) (f : StreamFault) : Complaint :=
  [s!"failed to read operations from {path}", f.message]

section

variable (p : Progress) {path : String} {node : FileNode} {bytes : List UInt8} {f : StreamFault}

lemma readOperations_of_refused (hnode : p.files.look path = .ok node)
    (hbytes : Files.bytesOf node = .ok bytes) (hread : OperationStream.read bytes = .error f) :
    (readOperations path).run.run p = (.error (refusal path f), p) := by
  have hget : (get : Run Progress).run.run p = (.ok p, p) := rfl
  rw [readOperations, bind_of_ok hget]
  dsimp only
  rw [hnode, bind_of_ok run_orComplain_ok, hbytes, bind_of_ok run_orComplain_ok, hread]
  rfl

/-- **Nothing is done for a stream that is refused.** -/
theorem replay_of_refused (hnode : p.files.look path = .ok node)
    (hbytes : Files.bytesOf node = .ok bytes) (hread : OperationStream.read bytes = .error f)
    (clock : Nat → Moment) (c : LedgerConfig) (storePath : Option String) :
    (replay clock c storePath path).run.run p = (.error (refusal path f), p) :=
  bind_of_error (readOperations_of_refused p hnode hbytes hread)

lemma command_of_refused (hnode : p.files.look path = .ok node)
    (hbytes : Files.bytesOf node = .ok bytes) (hread : OperationStream.read bytes = .error f)
    (clock : Nat → Moment) (c : LedgerConfig) (form : OutputForm) (withMetrics : Bool) :
    (command clock c form (.replay path withMetrics)).run.run p = (.error (refusal path f), p) :=
  bind_of_error (replay_of_refused p hnode hbytes hread clock c _)

end

end Run

/-! ### Invocations -/

namespace Invocation

section

variable {i : Invocation} {s : Surroundings} {c : Config} {complaint : Complaint}
  {filter : LogFilter}

lemma run_of_loadConfig_error (h : i.needsConfig) (hc : i.loadConfig s.files = .error complaint) :
    i.run s = { files := s.files, complaint := some complaint } := by
  rw [run, if_pos h, hc]

lemma run_of_logFilter?_none (h : i.needsConfig) (hc : i.loadConfig s.files = .ok c)
    (hfilter : logFilter? s.logDirectives (i.logging c.logging) = none) :
    i.run s = { files := s.files, brokeOff := true, logging := i.logging c.logging } := by
  rw [run, if_pos h, hc]
  simp only [hfilter]

/-- How far a run has come when its command begins. -/
def started (i : Invocation) (s : Surroundings) (c : Config) : Progress where
  files := s.files
  emitted := [.log (.starting (i.logging c.logging) c.ledger.backend)]

/-- A command that ends in a complaint before it does anything leaves all as it was. -/
lemma run_of_command_error (h : i.needsConfig) (hc : i.loadConfig s.files = .ok c)
    (hfilter : logFilter? s.logDirectives (i.logging c.logging) = some filter)
    (hcommand : (Run.command s.clock c.ledger i.output i.command).run.run (i.started s c)
      = (.error complaint, i.started s c)) :
    i.run s =
      { files := s.files
        complaint := some complaint
        logging := i.logging c.logging
        logged :=
          [LogEvent.starting (i.logging c.logging) c.ledger.backend].filter filter.admits } := by
  rw [run, if_pos h, hc]
  simp only [hfilter]
  have hbody : (do
      Run.log (.starting (i.logging c.logging) c.ledger.backend)
      Run.command s.clock c.ledger i.output i.command).run.run { files := s.files }
        = (.error complaint, i.started s c) := hcommand
  rw [hbody]
  rfl

end

/-- An invocation of a replay of a stream that is refused leaves all as it was. -/
lemma run_of_refused {i : Invocation} {s : Surroundings} {path : String} {withMetrics : Bool}
    {node : FileNode} {bytes : List UInt8} {f : StreamFault}
    (hcommand : i.command = .replay path withMetrics) (hnode : s.files.look path = .ok node)
    (hbytes : Files.bytesOf node = .ok bytes) (hread : OperationStream.read bytes = .error f) :
    let o := i.run s
    (o.files = s.files ∧ o.lines = [] ∧ o.metrics = none ∧ (o.exitCode = 1 ∨ o.exitCode = 101))
      ∧ ∀ c filter, i.loadConfig s.files = .ok c →
        logFilter? s.logDirectives (i.logging c.logging) = some filter →
        o.complaint = some (Run.refusal path f) ∧ o.exitCode = 1
          ∧ o.logged
            = [LogEvent.starting (i.logging c.logging) c.ledger.backend].filter filter.admits := by
  have hneeds : i.needsConfig = true := by rw [needsConfig, hcommand]
  have hrun (c : Config) (filter : LogFilter) (hc : i.loadConfig s.files = .ok c)
      (hfilter : logFilter? s.logDirectives (i.logging c.logging) = some filter) :=
    run_of_command_error hneeds hc hfilter
      (hcommand ▸ Run.command_of_refused (i.started s c) hnode hbytes hread s.clock c.ledger
        i.output withMetrics)
  refine ⟨?_, ?_⟩
  · cases hc : i.loadConfig s.files with
    | error complaint =>
      rw [run_of_loadConfig_error hneeds hc]
      exact ⟨rfl, rfl, rfl, .inl rfl⟩
    | ok c =>
      cases hfilter : logFilter? s.logDirectives (i.logging c.logging) with
      | none =>
        rw [run_of_logFilter?_none hneeds hc hfilter]
        exact ⟨rfl, rfl, rfl, .inr rfl⟩
      | some filter =>
        rw [hrun c filter hc hfilter]
        exact ⟨rfl, rfl, rfl, .inl rfl⟩
  · intro c filter hc hfilter
    rw [hrun c filter hc hfilter]
    exact ⟨rfl, rfl, rfl⟩

end Invocation

namespace Run

open OperationStream

/-- **A stream is replayed as a whole or not at all.** It is read just if each of its lines is UTF-8
and, without the blank characters at its ends, is empty, begins with a number sign, or is an
operation, and then the operations are read in the order of their lines; so a stream that is cut
where a line ends can be read part by part. Otherwise the first line of which this is not true is
refused, with its number if it is UTF-8.

For a stream that is refused nothing is done, whichever operations it begins with: the run that
should replay it leaves files and log as they were, and the invocation leaves the files, prints
nothing and fails. If it got so far as to read the stream, its complaint names the path and the
fault, and all that it has logged is that it began. -/
theorem replay_all_or_nothing :
    (∀ bytes ops, read bytes = .ok ops
      ↔ ∃ said, List.Forall₂ Says (physicalLines bytes) said ∧ said.reduceOption = ops)
    ∧ (∀ xs ys, EndsWithLine xs → read (xs ++ ys) = do
      let ops ← read xs
      let ops' ← (read ys).mapError (·.after (physicalLines xs).length)
      return ops ++ ops')
    ∧ (∀ bytes f, read bytes = .error f
      ↔ ∃ before line after, physicalLines bytes = before ++ line :: after
        ∧ (∀ l ∈ before, ∃ op?, Says l op?) ∧ Refused (before.length + 1) line f)
    ∧ ∀ (files : Files) path node bytes f, files.look path = .ok node →
      Files.bytesOf node = .ok bytes → read bytes = .error f →
      (∀ emitted clock c storePath,
        (replay clock c storePath path).run.run { files, emitted }
          = (.error [s!"failed to read operations from {path}", f.message], { files, emitted }))
      ∧ ∀ (i : Invocation) (s : Surroundings) withMetrics, s.files = files →
        i.command = .replay path withMetrics →
        let o := i.run s
        (o.files = files ∧ o.lines = [] ∧ o.metrics = none ∧ (o.exitCode = 1 ∨ o.exitCode = 101))
        ∧ ∀ c filter, i.loadConfig files = .ok c →
          Invocation.logFilter? s.logDirectives (i.logging c.logging) = some filter →
          o.complaint = some [s!"failed to read operations from {path}", f.message]
            ∧ o.exitCode = 1
            ∧ o.logged = List.filter filter.admits
              [LogEvent.starting (i.logging c.logging) c.ledger.backend] := by
  refine ⟨fun bytes ops => read_eq_ok_iff, fun xs ys h => read_append h ys,
    fun bytes f => read_eq_error_iff, ?_⟩
  intro files path node bytes f hnode hbytes hread
  refine ⟨?_, ?_⟩
  · intro emitted clock c storePath
    exact replay_of_refused { files, emitted } hnode hbytes hread clock c storePath
  · rintro i s withMetrics rfl hcommand
    exact Invocation.run_of_refused hcommand hnode hbytes hread

/-- An operation, a remark, and a line that is neither. -/
def brokenStream : List UInt8 :=
  Text.encode "[\"delete\",\"0000000000000001\"]\n# and then\nnothing\n"

/-- The stream as the only file. -/
def brokenFiles : Files where
  nodes := SortedMap.empty.insert "ops" (.plain brokenStream)

/-- The third line is refused, and the store in which the operation should be kept is not made. -/
theorem replay_all_or_nothing_brokenStream :
    let i : Invocation := { command := .replay "ops" false }
    let s : Surroundings := { files := brokenFiles, clock := fun i => { id := .ofNat i, now := 0 } }
    read brokenStream = .error (.invalidLine 3)
      ∧ (replay s.clock {} (some "ledger") "ops").run.run { files := brokenFiles }
        = (.error ["failed to read operations from ops", "line 3: invalid operation"],
          { files := brokenFiles })
      ∧ (i.run s).files = brokenFiles := by
  intro i s
  have hread : read brokenStream = .error (.invalidLine 3) := by decide +kernel
  have hnode : brokenFiles.look "ops" = .ok (.plain brokenStream) := by decide +kernel
  obtain ⟨-, -, -, hrefused⟩ := replay_all_or_nothing
  obtain ⟨hreplay, hrun⟩ := hrefused brokenFiles "ops" _ _ _ hnode rfl hread
  obtain ⟨⟨hfiles, -⟩, -⟩ := hrun i s false rfl rfl
  exact ⟨hread, hreplay [] _ _ _, hfiles⟩

end Run

end AlertLedger
