/-
# The paths of stores

A configuration that is handed out has been checked, so the capacity of the buffer is within bounds,
and there is a path wherever the ledger is enabled and keeps its rows in a store
(`Config.flaw?_eq_none_iff`). The default is such a configuration, too.

When a command opens a store is decided elsewhere, and by other conditions: a replay asks whether
the ledger is enabled, and the commands that ask a store do not. Which stores a command opens and
with what capacity shows in what it does with the way to open one that it is given
(`Run.commandBy`). It does the same with any two ways that agree at its path and the capacity of its
configuration (`Run.commandBy_congr`), so no store is opened at another path or with another
capacity; and where every store is refused the files stay as they are (`Run.keepsFiles_commandBy`),
so none is opened in any other way. The main result is `Run.opened_path_not_blank`.
-/
import AlertLedger.Command.Run
import AlertLedger.Proofs.Sink
import AlertLedger.Proofs.Text.Blank
import AlertLedger.Proofs.Trail.Run

namespace AlertLedger

/-! ### Checked configurations -/

namespace Config

/-- A configuration with nothing wrong. -/
structure Flawless (c : Config) : Prop where
  least : 1 ≤ c.ledger.bufferCapacity.toNat
  most : c.ledger.bufferCapacity.toNat ≤ 1000000
  path : c.ledger.enabled → c.ledger.backend = .store → Text.trim c.ledger.storagePath ≠ ""

/-- The ways to come by a configuration: from a text, from a file, and from a file that may be
missing. -/
inductive HandedOut (c : Config) : Prop
  | parsed (text : String) (h : parse text = .ok c)
  | loaded (f : Files) (path : String) (h : load f path = .ok c)
  | loadedOrDefault (f : Files) (path : String) (h : loadOrDefault f path = .ok c)

variable {c : Config}

lemma flaw?_eq_none_iff : c.flaw? = none ↔ c.Flawless := by
  have hleast : c.ledger.bufferCapacity < minCapacity ↔ c.ledger.bufferCapacity.toNat < 1 := .rfl
  have hmost : maxCapacity < c.ledger.bufferCapacity ↔ 1000000 < c.ledger.bufferCapacity.toNat :=
    .rfl
  rw [flaw?]
  split_ifs with hcapacity hpath
  · rw [hleast, hmost] at hcapacity
    refine iff_of_false nofun ?_
    intro h
    have := h.least
    have := h.most
    omega
  · refine iff_of_false nofun ?_
    intro h
    exact h.path hpath.1 hpath.2.1 (Text.trim_eq_empty_iff.mpr hpath.2.2)
  · rw [hleast, hmost] at hcapacity
    refine iff_of_true rfl ⟨by omega, by omega, ?_⟩
    intro henabled hbackend hblank
    exact hpath ⟨henabled, hbackend, Text.trim_eq_empty_iff.mp hblank⟩

lemma flawless_of_parse {text : String} (h : parse text = .ok c) : c.Flawless := by
  rw [parse] at h
  split at h
  · cases h
  · rw [checked] at h
    split at h
    · rename_i hnone
      obtain rfl := Except.ok.inj h
      exact flaw?_eq_none_iff.mp hnone
    · cases h

/-- **What is handed out has been checked.** -/
theorem HandedOut.flawless (h : c.HandedOut) : c.Flawless := by
  cases h with
  | parsed text h => exact flawless_of_parse h
  | loaded f path h =>
    rw [load] at h
    split at h
    · cases h
    · exact flawless_of_parse h
  | loadedOrDefault f path h =>
    rw [loadOrDefault] at h
    split at h
    · -- The file is missing.
      obtain rfl := Except.ok.inj h
      exact flaw?_eq_none_iff.mp (by decide)
    · cases h
    · exact flawless_of_parse h

end Config

/-! ### Opened stores -/

namespace Run

variable {openAt openAt' : Opener} {clock : Nat → Moment} {c : LedgerConfig} {form : OutputForm}
  {cmd : Command}

/-- **A command opens a store at its path only, with the capacity of its configuration.** How
stores are opened at other paths or with other capacities makes no difference. -/
theorem commandBy_congr (h : ∀ path, cmd.storePath? c = some path → ∀ disk,
      openAt path disk c.bufferCapacity.toNat = openAt' path disk c.bufferCapacity.toNat) :
    commandBy openAt clock c form cmd = commandBy openAt' clock c form cmd := by
  have hsink (disk : Disk) : chooseSink openAt disk c (cmd.storePath? c)
      = chooseSink openAt' disk c (cmd.storePath? c) := by
    cases hpath : cmd.storePath? c with
    | none => rfl
    | some path => rw [chooseSink, chooseSink, h path hpath]
  have hquestion (disk : Disk) : openForQuestion openAt disk c (cmd.storePath? c)
      = openForQuestion openAt' disk c (cmd.storePath? c) := by
    cases hpath : cmd.storePath? c with
    | none => rfl
    | some path => rw [openForQuestion, openForQuestion, h path hpath]
  cases cmd with
  | version | fingerprint => rfl
  | replay => simp only [commandBy, replayBy, hsink]
  | history | events | stats => simp only [commandBy, hquestion]

end Run

/-! ### Sinks without stores -/

/-- Whether a sink keeps its rows in stores. -/
def ChosenSink.inStores : ChosenSink → Bool
  | .stores _ => true
  | .recording _ | .logging _ | .discarding _ | .unreliable _ => false

lemma ChosenSink.inStores_perform (m : Moment) (c : SinkCall) (s : ChosenSink) :
    (Sink.perform m c s).state.inStores = s.inStores := by
  cases s <;> cases c <;> rfl

namespace Trail

variable {σ : Type} [Authority σ]

lemma inStores_apply (m : Moment) (op : Operation) (t : Trail σ ChosenSink) :
    (t.apply m op).state.sink.inStores = t.sink.inStores := by
  rw [apply_def]
  cases ((decide op).run t.authority).1 with
  | none => rfl
  | some e => exact ChosenSink.inStores_perform m (.append e) t.sink

lemma inStores_applyAll (clock : Nat → Moment) (i : Nat) (summary : ReplaySummary)
    (ops : List Operation) (t : Trail σ ChosenSink) :
    (t.applyAll clock i summary ops).state.sink.inStores = t.sink.inStores := by
  induction ops generalizing i summary t with
  | nil => rfl
  | cons op ops ih =>
    exact (ih (i + 1) (summary.add op) _).trans (inStores_apply (clock i) op t)

lemma inStores_replay (clock : Nat → Moment) (ops : List Operation) (t : Trail σ ChosenSink) :
    (t.replay clock ops).state.sink.inStores = t.sink.inStores :=
  (ChosenSink.inStores_perform (clock ops.length) .flush _).trans
    (inStores_applyAll clock 0 {} ops t)

lemma inStores_refresh (t : Trail σ ChosenSink) :
    t.refresh.state.sink.inStores = t.sink.inStores := by
  rw [refresh]
  split <;> rfl

end Trail

/-! ### What a command does to the files -/

namespace Run

/-- A run that leaves the files as they are. -/
def KeepsFiles {α : Type} (x : Run α) : Prop := ∀ p, (x.run.run p).2.files = p.files

namespace KeepsFiles

variable {α β : Type}

lemma of_pure (a : α) : KeepsFiles (pure a) := fun _ => rfl

lemma of_get : KeepsFiles (get : Run Progress) := fun _ => rfl

lemma of_log (e : LogEvent) : KeepsFiles (log e) := fun _ => rfl

lemma of_orComplain {ε : Type} (message : String) (cause : ε → Complaint) (r : Except ε α) :
    KeepsFiles (orComplain message cause r) := by
  cases r <;> exact fun _ => rfl

lemma of_answer (r : Except Fault α) : KeepsFiles (answer r) := by
  cases r <;> exact fun _ => rfl

/-- A sink without stores leaves nothing in the files. -/
lemma of_settle {step : Step ReplayTrail α} (h : step.state.sink.inStores = false) :
    KeepsFiles (settle step) := by
  intro p
  change leave step.state.sink p.files = p.files
  cases hsink : step.state.sink with
  | stores =>
    rw [hsink] at h
    cases h
  | recording | logging | discarding | unreliable => rfl

variable {x : Run α} {f : α → Run β}

/-- If the first part keeps the files, the second one has to do so only for what the first one can
come to. -/
lemma bind_of_ok (hx : KeepsFiles x)
    (hf : ∀ a p q, x.run.run p = (.ok a, q) → KeepsFiles (f a)) : KeepsFiles (x >>= f) := by
  intro p
  have hfirst := hx p
  rw [ExceptT.run_bind, StateT.run_bind]
  rcases h : x.run.run p with ⟨r, q⟩
  rw [h] at hfirst
  cases r with
  | error complaint => exact hfirst
  | ok a => exact (hf a p q h q).trans hfirst

lemma bind (hx : KeepsFiles x) (hf : ∀ a, KeepsFiles (f a)) : KeepsFiles (x >>= f) :=
  hx.bind_of_ok fun a _ _ _ => hf a

end KeepsFiles

section

variable (complaint : Complaint) (clock : Nat → Moment) (c : LedgerConfig)

/-- A way to open stores in which none is ever opened. -/
def refuse : Opener := fun _ _ _ => throw complaint

lemma keepsFiles_readOperations (path : String) : KeepsFiles (readOperations path) := by
  refine .bind .of_get fun _ => ?_
  refine .bind (.of_orComplain _ _ _) fun _ => ?_
  exact .bind (.of_orComplain _ _ _) fun _ => .of_orComplain _ _ _

lemma keepsFiles_chooseSink (disk : Disk) (storePath : Option String) :
    KeepsFiles (chooseSink (refuse complaint) disk c storePath) := by
  cases storePath with
  | some path => exact fun _ => rfl
  | none =>
    rw [chooseSink]
    split <;> exact fun _ => rfl

/-- Where no store is opened, none is the sink. -/
lemma inStores_of_chooseSink {disk : Disk} {storePath : Option String} {sink : ChosenSink}
    {p q : Progress}
    (h : (chooseSink (refuse complaint) disk c storePath).run.run p = (.ok sink, q)) :
    sink.inStores = false := by
  cases storePath with
  | some path => cases h
  | none =>
    rw [chooseSink] at h
    split at h
    all_goals
      cases h
      rfl

lemma keepsFiles_replayBy (storePath : Option String) (path : String) :
    KeepsFiles (replayBy (refuse complaint) clock c storePath path) := by
  refine .bind (keepsFiles_readOperations path) fun ops => ?_
  refine .bind_of_ok (keepsFiles_chooseSink complaint c _ storePath) fun sink p q hsink => ?_
  -- From here on the sink is called only, and it stays without stores.
  set t : ReplayTrail := { authority := MemoryAuthority.empty, sink, metered := true }
  have hreplayed : (t.replay clock ops).state.sink.inStores = false :=
    (Trail.inStores_replay clock ops t).trans (inStores_of_chooseSink complaint c hsink)
  have hrefreshed := (Trail.inStores_refresh _).trans hreplayed
  have hclosed := (ChosenSink.inStores_perform (clock (ops.length + 1)) .close _).trans hrefreshed
  refine .bind (.of_settle hreplayed) fun _ => ?_
  refine .bind (.of_orComplain _ _ _) fun _ => ?_
  refine .bind (.of_settle hrefreshed) fun _ => ?_
  refine .bind (.of_settle hclosed) fun _ => ?_
  refine .bind (.of_orComplain _ _ _) fun _ => ?_
  exact .bind (.of_log _) fun _ => .of_pure _

lemma keepsFiles_openForQuestion (disk : Disk) (storePath : Option String) :
    KeepsFiles (openForQuestion (refuse complaint) disk c storePath) := by
  cases storePath <;> exact fun _ => rfl

/-- **A command touches files only by opening a store.** Where no store can be opened the files
stay as they are. -/
theorem keepsFiles_commandBy (form : OutputForm) (cmd : Command) :
    KeepsFiles (commandBy (refuse complaint) clock c form cmd) := by
  cases cmd with
  | version => exact .of_pure _
  | fingerprint labels => exact .bind (.of_answer _) fun _ => .of_pure _
  | replay file withMetrics =>
    refine .bind (keepsFiles_replayBy complaint clock c _ file) fun _ => ?_
    cases withMetrics <;> exact fun _ => rfl
  | history =>
    refine .bind (.of_answer _) fun _ => ?_
    refine .bind (keepsFiles_openForQuestion complaint c _ _) fun _ => ?_
    exact .bind (.of_answer _) fun _ => .of_pure _
  | events | stats =>
    refine .bind (keepsFiles_openForQuestion complaint c _ _) fun _ => ?_
    exact .bind (.of_answer _) fun _ => .of_pure _

end

/-! ### The paths that are opened -/

/-- Where there is a path, it is that of the configuration, which keeps rows in a store; and for a
replay the ledger is enabled. -/
lemma storePath?_eq_some {c : LedgerConfig} {cmd : Command} {path : String}
    (h : cmd.storePath? c = some path) : c.backend = .store ∧ c.storagePath = path
      ∧ ((∃ file withMetrics, cmd = .replay file withMetrics) → c.enabled) := by
  cases cmd with
  | version | fingerprint => cases h
  | replay =>
    rw [Command.storePath?, Option.ite_none_right_eq_some, Bool.and_eq_true, beq_iff_eq] at h
    obtain ⟨⟨henabled, hbackend⟩, hpath⟩ := h
    exact ⟨hbackend, Option.some.inj hpath, fun _ => henabled⟩
  | history | events | stats =>
    rw [Command.storePath?, Option.ite_none_right_eq_some, beq_iff_eq] at h
    obtain ⟨hbackend, hpath⟩ := h
    refine ⟨hbackend, Option.some.inj hpath, ?_⟩
    rintro ⟨file, withMetrics, ⟨⟩⟩

/-- **With the ledger enabled, no store is opened at a blank path.** A configuration that is handed
out, be it from a text, from a file, or the default for a file that is missing, has a capacity from
1 to 1000000. If the ledger is enabled, or if the command is a replay, the path of the store that
the command opens is not blank: the command does the same where stores are opened in any other way
at blank paths and with other capacities.

No command, with the ledger enabled or not, opens a store anywhere else than at the path of the
configuration or with another capacity than that of the configuration: it does the same where stores
are opened in any other way at all other paths and with all other capacities. Where none can be
opened, it leaves the files as they are. -/
theorem opened_path_not_blank {c : Config} (h : c.HandedOut) :
    (1 ≤ c.ledger.bufferCapacity.toNat ∧ c.ledger.bufferCapacity.toNat ≤ 1000000)
    ∧ (∀ cmd : Command,
      (c.ledger.enabled ∨ ∃ file withMetrics, cmd = .replay file withMetrics) →
      (∀ path, cmd.storePath? c.ledger = some path → Text.trim path ≠ "")
      ∧ ∀ openAt : Opener,
        (∀ path disk capacity, Text.trim path ≠ "" → 1 ≤ capacity → capacity ≤ 1000000 →
          openAt path disk capacity = openStore path disk capacity) →
        ∀ clock form,
          commandBy openAt clock c.ledger form cmd = command clock c.ledger form cmd)
    ∧ ∀ cmd : Command,
      (∀ path, cmd.storePath? c.ledger = some path → path = c.ledger.storagePath)
      ∧ (∀ openAt : Opener,
        (∀ path disk capacity, path = c.ledger.storagePath →
          capacity = c.ledger.bufferCapacity.toNat →
          openAt path disk capacity = openStore path disk capacity) →
        ∀ clock form,
          commandBy openAt clock c.ledger form cmd = command clock c.ledger form cmd)
      ∧ ∀ complaint clock form p,
        ((commandBy (refuse complaint) clock c.ledger form cmd).run.run p).2.files = p.files := by
  obtain ⟨hleast, hmost, hflawless⟩ := h.flawless
  refine ⟨⟨hleast, hmost⟩, ?_, ?_⟩
  · intro cmd hcmd
    have hpath : ∀ path, cmd.storePath? c.ledger = some path → Text.trim path ≠ "" := by
      intro path hsome
      obtain ⟨hbackend, rfl, hreplay⟩ := storePath?_eq_some hsome
      exact hflawless (hcmd.elim id hreplay) hbackend
    refine ⟨hpath, ?_⟩
    intro openAt hopen clock form
    refine commandBy_congr ?_
    intro path hsome disk
    exact hopen path disk _ (hpath path hsome) hleast hmost
  · intro cmd
    have hpath : ∀ path, cmd.storePath? c.ledger = some path → path = c.ledger.storagePath :=
      fun path hsome => (storePath?_eq_some hsome).2.1.symm
    refine ⟨hpath, ?_, ?_⟩
    · intro openAt hopen clock form
      refine commandBy_congr ?_
      intro path hsome disk
      exact hopen path disk _ (hpath path hsome) rfl
    · intro complaint clock form p
      exact keepsFiles_commandBy complaint clock c.ledger form cmd p

/-- A text with a path for a store. -/
def pathText : String := "state_log:\n  storage_path: ' states.redb'\n  buffer_capacity: 16\n"

/-- The configuration that it spells. -/
def pathConfig : Config := { ledger := { storagePath := " states.redb", bufferCapacity := 16 } }

/-- Its path is opened for statistics as it stands, and with 16 as the capacity. -/
theorem opened_path_not_blank_pathConfig :
    Config.parse pathText = .ok pathConfig
      ∧ Command.stats.storePath? pathConfig.ledger = some " states.redb"
      ∧ Text.trim " states.redb" ≠ ""
      ∧ (∀ clock form, commandBy (fun path disk capacity =>
          if Text.trim path = "" then throw [] else openStore path disk capacity)
          clock pathConfig.ledger form .stats = command clock pathConfig.ledger form .stats)
      ∧ ∀ clock form, commandBy (fun path disk capacity =>
          if path = " states.redb" ∧ capacity = 16 then openStore path disk capacity else throw [])
          clock pathConfig.ledger form .stats = command clock pathConfig.ledger form .stats := by
  have hparse : Config.parse pathText = .ok pathConfig := by decide +kernel
  obtain ⟨-, hchecked, hevery⟩ := opened_path_not_blank (.parsed pathText hparse)
  obtain ⟨hpath, hsame⟩ := hchecked .stats (.inl rfl)
  refine ⟨hparse, rfl, hpath _ rfl, hsame _ ?_, (hevery .stats).2.1 _ ?_⟩
  · intro path disk capacity hne _ _
    exact if_neg hne
  · intro path disk capacity hpath hcapacity
    exact if_pos ⟨hpath, hcapacity⟩

/-- A text that disables the ledger and gives it a blank path. -/
def disabledText : String := "state_log:\n  enabled: false\n  storage_path: ' '\n"

/-- The configuration that it spells. -/
def disabledConfig : Config := { ledger := { enabled := false, storagePath := " " } }

/-- The files in which the text is all there is. -/
def disabledFiles : Files where
  nodes := SortedMap.empty.insert "c.yaml" (.plain (Text.encode disabledText))

/-- With the ledger disabled, a store is opened at a blank path: such a configuration is handed out,
the path is not looked at there, and the commands that ask a store do not look whether the ledger is
enabled. -/
theorem disabled_path_blank :
    (let i : Invocation := { command := .stats, config := some "c.yaml" }
      let s : Surroundings :=
        { files := disabledFiles, clock := fun i => { id := .ofNat i, now := 0 } }
      i.loadConfig s.files = .ok disabledConfig
        ∧ (i.run s).exitCode = 0 ∧ (i.run s).files.look " " = .ok (.store .empty))
    ∧ ¬ ∀ c : Config, c.HandedOut → ∀ (cmd : Command) (path : String),
      cmd.storePath? c.ledger = some path → Text.trim path ≠ "" := by
  have hparse : Config.parse disabledText = .ok disabledConfig := by decide +kernel
  refine ⟨by decide +kernel, ?_⟩
  intro h
  exact h disabledConfig (.parsed disabledText hparse) .stats " " rfl (by decide)

end Run

end AlertLedger
