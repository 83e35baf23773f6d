/-
SchedPlane/Proofs/HandleJournal.lean

The flags of a handle, and the journal of its life.

* `Handle.Flags`: the lifecycle state, the flags of the handle, its links and the flags of the
  kernel agree with each other and with the attaches that were made;
* `Handle.Written`: the journal of the kernel is `Handle.ledger`, which can be read off the
  handle.

Each of the two has one lemma for what leaves the life of a handle alone, for an attach, for the
beginning of a close, for a step of the teardown, and for a step of each worker thread.

The flush thread may die of a submission at any time.  Its ring is released at that moment, so
the entry stands earlier than in the ledger, and nothing else changes.
-/
import SchedPlane.Proofs.HandleLife

namespace SchedPlane

open Kernel (Lived)

/-! ### Links and flags -/

/-- The links of the probes of a registry. -/
def Registry.links (r : Registry) : List Link :=
  r.probes.map fun p => ⟨p.name, false⟩

namespace Handle

/-- The number of attaches that succeeded. -/
def wins (attaches : List (Except ControlError Unit)) : Nat :=
  attaches.countP (·.isOk)

/-- Whether an attach succeeded. -/
def won (attaches : List (Except ControlError Unit)) : Bool :=
  decide (0 < wins attaches)

/-- The state, the links and the flags of a handle and its kernel agree with one another.
`attaches` are the answers to the attaches so far, and `asked` is the number of them that asked the
kernel. -/
structure Flags (attaches : List (Except ControlError Unit)) (asked : Nat) (k : Kernel)
    (h : Handle) : Prop where
  closed : h.closed = decide (h.teardown ≠ .notBegun)
  state : h.state =
    if h.teardown = .done then .closed else if won attaches then .attached else .loaded
  scheduler : h.scheduler =
    if won attaches && decide (h.teardown.rank < 5) then some ⟨h.registry.structOps.name, true⟩
    else none
  attached : k.attached = h.scheduler.isSome
  unloaded : k.unloaded = decide (h.teardown = .done)
  /-- The one attempt has not been made. -/
  untried : h.attachTried = false → asked = 0 ∧ wins attaches = 0
  told : attaches ≠ [] → h.closed = true ∨ h.attachTried = true
  once : asked ≤ 1
  counted : wins attaches ≤ asked
  /-- The probes that are left are the first ones. -/
  probes : h.probes <+: h.registry.links
  allProbes : h.teardown.rank < 5 → h.probes = h.registry.links
  noProbes : 6 ≤ h.teardown.rank → h.probes = []

section Wins

variable {attaches : List (Except ControlError Unit)}

@[simp] theorem wins_append_ok : wins (attaches ++ [.ok ()]) = wins attaches + 1 := by
  simp [wins, Except.isOk, Except.toBool]

@[simp] theorem wins_append_error (e : ControlError) :
    wins (attaches ++ [.error e]) = wins attaches := by
  simp [wins, Except.isOk, Except.toBool]

@[simp] theorem won_append_error (e : ControlError) :
    won (attaches ++ [.error e]) = won attaches := by
  simp [won]

end Wins

namespace Flags

open Teardown (rank)

variable {attaches : List (Except ControlError Unit)} {asked : Nat} {k k' : Kernel}
  {h h' : Handle} {es : List JournalEntry}

/-- A handle that was just loaded is open, unattached and has all its links. -/
theorem fresh {c : Controller} {registry : Registry} {artifact : Artifact} {k₀ : Kernel}
    (loaded : h.Loaded c registry) (hosts : k₀.Hosts artifact registry k) : Flags [] 0 k h where
  closed := by simp [loaded.closed, loaded.teardown]
  state := by simp [loaded.state, loaded.teardown, won, wins]
  scheduler := by simp [loaded.scheduler, won, wins]
  attached := by simp [hosts.attached, loaded.scheduler]
  unloaded := by simp [hosts.unloaded, loaded.teardown]
  untried _ := ⟨rfl, rfl⟩
  told none := absurd rfl none
  once := Nat.zero_le 1
  counted := Nat.le_refl 0
  probes := by rw [loaded.probes, loaded.registry]; exact List.prefix_refl _
  allProbes _ := by rw [loaded.probes, loaded.registry]; rfl
  noProbes past := by simp [loaded.teardown, rank] at past

/-- What changes neither the handle, apart from its streams, nor the flags of the kernel. -/
theorem frame (f : Flags attaches asked k h) (lived : Lived k es k') (state : h'.state = h.state)
    (attachTried : h'.attachTried = h.attachTried) (closed : h'.closed = h.closed)
    (registry : h'.registry = h.registry) (probes : h'.probes = h.probes)
    (scheduler : h'.scheduler = h.scheduler) (teardown : h'.teardown = h.teardown) :
    Flags attaches asked k' h' where
  closed := by rw [closed, teardown]; exact f.closed
  state := by rw [state, teardown]; exact f.state
  scheduler := by rw [scheduler, teardown, registry]; exact f.scheduler
  attached := by rw [lived.attached, scheduler]; exact f.attached
  unloaded := by rw [lived.unloaded, teardown]; exact f.unloaded
  untried := by rw [attachTried]; exact f.untried
  told := by rw [closed, attachTried]; exact f.told
  once := f.once
  counted := f.counted
  probes := by rw [probes, registry]; exact f.probes
  allProbes := by rw [probes, registry, teardown]; exact f.allProbes
  noProbes := by rw [probes, teardown]; exact f.noProbes

/-- What leaves the handle and the life of the kernel alone leaves the flags in order. -/
theorem still (f : Flags attaches asked k h) (lived : Lived k es k') (still : h.Still h') :
    Flags attaches asked k' h' :=
  f.frame lived still.state still.attachTried still.closed still.registry still.probes
    still.scheduler still.teardown

/-- While the handle is open and no attach was tried, the handle is loaded and nothing more. -/
theorem untouched (f : Flags attaches asked k h) (opened : h.closed = false)
    (untried : h.attachTried = false) :
    h.teardown = .notBegun ∧ h.state = .loaded ∧ h.scheduler = none ∧ h.asks = true := by
  have begun : h.teardown = .notBegun := by simpa [opened] using f.closed
  have unwon : won attaches = false := by simp [won, (f.untried untried).2]
  have state : h.state = .loaded := by simpa [begun, unwon] using f.state
  have scheduler : h.scheduler = none := by simpa [unwon] using f.scheduler
  exact ⟨begun, state, scheduler, by simp [asks, opened, untried, state, Lifecycle.canBecome]⟩

/-- The one attempt is spent. -/
theorem not_asks (f : Flags attaches asked k h) (some : attaches ≠ []) : h.asks = false := by
  rcases f.told some with closed | tried
  · simp [asks, closed]
  · simp [asks, tried]

theorem opened_of_asks (asks : h.asks = true) : h.closed = false ∧ h.attachTried = false := by
  simp only [Handle.asks, Bool.and_eq_true, Bool.not_eq_true'] at asks
  exact asks.1

/-- An attach that the kernel grants moves the state, the link and the flag of the kernel together;
any other moves none of them. -/
theorem attach (f : Flags attaches asked k h) :
    Flags (attaches ++ [(h.attach k).1]) (if h.asks then asked + 1 else asked) (h.attach k).2.1
      (h.attach k).2.2 := by
  cases asks : h.asks
  · -- the kernel is not asked
    rw [attach_of_not_asks asks]
    have late : h.closed = true ∨ h.attachTried = true := by
      cases opened : h.closed
      · cases untried : h.attachTried
        · rw [(f.untouched opened untried).2.2.2] at asks
          cases asks
        · exact .inr rfl
      · exact .inl rfl
    exact { f with
      state := by simpa using f.state
      scheduler := by simpa using f.scheduler
      untried := by simpa using f.untried
      told := fun _ => late
      counted := by simpa using f.counted }
  · obtain ⟨opened, untried⟩ := opened_of_asks asks
    obtain ⟨begun, state, scheduler, -⟩ := f.untouched opened untried
    obtain ⟨asked₀, wins₀⟩ := f.untried untried
    rcases attach_of_asks asks k with ⟨e, -, answer⟩ | ⟨l, k', -, attached, answer⟩
    · -- the kernel refuses
      rw [answer]
      exact { f with
        state := by simpa using f.state
        scheduler := by simpa using f.scheduler
        untried := nofun
        told := fun _ => .inr rfl
        once := by simp [asked₀]
        counted := by simp [wins₀] }
    · -- the kernel grants: the state, the link and the flag move together
      rw [answer]
      exact { f with
        state := by simp [withScheduler, begun, won]
        scheduler := by simp [withScheduler, begun, won, rank]
        attached := by simp [attached, withScheduler, Kernel.record]
        unloaded := by rw [attached]; exact f.unloaded
        untried := nofun
        told := fun _ => .inr rfl
        once := by simp [asked₀]
        counted := by simp [wins₀] }

/-- A close that begins sets the closed flag and enters the first stage. -/
theorem beginClose (f : Flags attaches asked k h) : Flags attaches asked k h.beginClose := by
  unfold Handle.beginClose
  split
  · exact f
  · next closed =>
    have begun : h.teardown = .notBegun := by simpa [closed] using f.closed
    exact { f with
      closed := by simp
      state := by simpa [begun] using f.state
      scheduler := by simpa [begun, rank] using f.scheduler
      unloaded := by simpa [begun] using f.unloaded
      told := fun _ => .inl rfl
      allProbes := fun _ => f.allProbes (by simp [begun, rank])
      noProbes := fun past => by simp [rank] at past }

/-- The teardown goes on between two stages that neither begin nor end it. -/
theorem goTo (f : Flags attaches asked k h) {stage stage' : Teardown} (here : h.teardown = stage)
    (begun : stage ≠ .notBegun) (begun' : stage' ≠ .notBegun) (undone : stage ≠ .done)
    (undone' : stage' ≠ .done) (scheduler : stage.rank < 5 ↔ stage'.rank < 5)
    (probes : 6 ≤ stage'.rank → h.probes = []) :
    Flags attaches asked k { h with teardown := stage' } := by
  subst here
  exact { f with
    closed := by simpa [begun, begun'] using f.closed
    state := by simpa [undone, undone'] using f.state
    scheduler := by simpa [scheduler] using f.scheduler
    unloaded := by simpa [undone, undone'] using f.unloaded
    allProbes := fun early => f.allProbes (scheduler.mpr early)
    noProbes := probes }

/-- Giving the scheduler up, if there is one. -/
theorem detachAll_scheduler (f : Flags attaches asked k h) (early : h.teardown.rank < 5) :
    detachAll k h.scheduler.toList =
      if won attaches then
        { k with attached := false }.record (.detached h.registry.structOps.name)
      else k := by
  rw [f.scheduler]
  cases won attaches
  · rfl
  · simp [early, detachAll, Kernel.detach_snd, Kernel.release]

/-- No link of a probe attaches a scheduler. -/
theorem isScheduler_last (f : Flags attaches asked k h) {l : Link}
    (last : h.probes.getLast? = some l) : l.isScheduler = false := by
  have mem : l ∈ h.registry.links := f.probes.subset (List.mem_of_getLast? last)
  simp only [Registry.links, List.mem_map] at mem
  obtain ⟨p, -, rfl⟩ := mem
  rfl

/-- Each step of the teardown keeps the flags in step with its stage: the state moves with the flag
of the kernel, and the object is unloaded at the end. -/
theorem teardown (f : Flags attaches asked k h) (move : h.TeardownMove k k' h') :
    Flags attaches asked k' h' := by
  cases move with
  | rest => exact f
  | askExits | closeDispatch | askQueued => exact f.frame (.refl k) rfl rfl rfl rfl rfl rfl rfl
  | passExits here | passDispatch here | passQueued here =>
    exact f.goTo here (by decide) (by decide) (by decide) (by decide) (by decide)
      fun late => absurd late (by decide)
  | dropScheduler here =>
    -- where no attach has succeeded there is no link, and the flag was down before
    have gone : (detachAll k h.scheduler.toList).attached = false ∧
        (detachAll k h.scheduler.toList).unloaded = k.unloaded := by
      rw [f.detachAll_scheduler (by simp [here, rank])]
      have attached := f.attached
      rw [f.scheduler] at attached
      cases lost : won attaches
      · exact ⟨by simpa [lost] using attached, rfl⟩
      · exact ⟨rfl, rfl⟩
    exact { f with
      closed := by simpa [here] using f.closed
      state := by simpa [here] using f.state
      scheduler := by simp [rank]
      attached := gone.1
      unloaded := by rw [gone.2]; simpa [here] using f.unloaded
      allProbes := fun early => by simp [rank] at early
      noProbes := fun late => by simp [rank] at late }
  | dropProbe here last =>
    have lived := Kernel.lived_detach k (f.isScheduler_last last)
    exact { f with
      attached := by rw [lived.attached]; exact f.attached
      unloaded := by rw [lived.unloaded]; exact f.unloaded
      probes := (List.dropLast_prefix _).trans f.probes
      allProbes := fun early => by simp [here, rank] at early
      noProbes := fun late => by simp [here, rank] at late }
  | passProbes here none =>
    refine f.goTo here (by decide) (by decide) (by decide) (by decide) (by decide) fun _ => ?_
    exact List.getLast?_eq_none_iff.mp none
  | unload here =>
    have loaded : k.unloaded = false := by simpa [here] using f.unloaded
    rw [Kernel.close_of_loaded loaded]
    exact { f with
      closed := by simpa [here] using f.closed
      state := by simp
      scheduler := by simpa [here, rank] using f.scheduler
      unloaded := by simp [Kernel.record]
      allProbes := fun early => by simp [rank] at early
      noProbes := fun _ => f.noProbes (by simp [here, rank]) }

/-! #### What the state says -/

theorem state_cases (f : Flags attaches asked k h) :
    h.state = .loaded ∨ h.state = .attached ∨ h.state = .closed := by
  rw [f.state]
  split
  · exact .inr (.inr rfl)
  · split
    · exact .inr (.inl rfl)
    · exact .inl rfl

/-- Where no close is under way, the state, the link and the kernel agree on whether the scheduler
is attached. -/
theorem attached_iff (f : Flags attaches asked k h) (rests : h.teardownAtRest = true) :
    (h.state = .attached ↔ h.scheduler.isSome) ∧ (h.state = .attached ↔ k.attached = true) := by
  rw [f.attached, f.state, f.scheduler]
  cases won attaches <;> rcases teardown_of_atRest rests with here | here <;> simp [here, rank]

/-- Where no close is under way, the state, the closed flag and the kernel agree on whether the
handle is closed. -/
theorem closed_iff (f : Flags attaches asked k h) (rests : h.teardownAtRest = true) :
    (h.state = .closed ↔ h.closed = true) ∧ (h.state = .closed ↔ k.unloaded = true) := by
  rw [f.closed, f.state, f.unloaded]
  cases won attaches <;> rcases teardown_of_atRest rests with here | here <;> simp [here]

/-- A scheduler in the kernel is that of an attached handle: the link is held until the teardown
has got to it. -/
theorem state_of_attached (f : Flags attaches asked k h) (owned : k.attached = true) :
    h.state = .attached := by
  rw [f.attached, f.scheduler] at owned
  rw [f.state]
  cases win : won attaches
  · simp [win] at owned
  · have undone : h.teardown ≠ .done := by
      intro done
      simp [done, rank] at owned
    simp [undone]

end Flags

/-! ### The journal -/

open JournalEntry in
/-- What the journal says of a handle after its load, apart from a release by a flush thread that
died: each entry is there as soon as what it tells of has happened. -/
def ledger (won : Bool) (h : Handle) : List JournalEntry :=
  (if won then [schedulerAttached h.registry.structOps.name] else []) ++
  (if h.exits.isFinished then [released Contract.exit] else []) ++
  (if h.dispatch.phase = .finished then [released Contract.dispatched] else []) ++
  (if h.queued.isFinished then [released Contract.queued] else []) ++
  (if won && decide (5 ≤ h.teardown.rank) then [detached h.registry.structOps.name] else []) ++
  (h.registry.links.drop h.probes.length).reverse.map (detached ·.label) ++
  (if h.teardown = .done then [unloaded] else [])

/-- The journal with the release of the dispatch ring where the flush thread died. -/
def withDeath (died : Option Nat) (es : List JournalEntry) : List JournalEntry :=
  match died with
  | none => es
  | some n => es.take n ++ .released Contract.dispatched :: es.drop n

/-- Where the flush thread has died, once it has. -/
def noteDeath (died : Option Nat) (k : Kernel) (h' : Handle) : Option Nat :=
  if died = none ∧ h'.dispatch.phase = .dead then some k.journal.length else died

/-- The journal is what the handle tells, after the entries of its load. -/
structure Written (opening : List JournalEntry) (won : Bool) (died : Option Nat) (k : Kernel)
    (h : Handle) : Prop where
  dead : died.isSome = true ↔ h.dispatch.phase = .dead
  early : ∀ n, died = some n → n ≤ (opening ++ h.ledger won).length
  journal : k.journal = withDeath died (opening ++ h.ledger won)

/-- A death in the past stays where it is when the journal grows. -/
theorem withDeath_append {died : Option Nat} {es : List JournalEntry}
    (early : ∀ n, died = some n → n ≤ es.length) (more : List JournalEntry) :
    withDeath died (es ++ more) = withDeath died es ++ more := by
  cases died with
  | none => rfl
  | some n =>
    have within := early n rfl
    simp [withDeath, List.take_append_of_le_length within, List.drop_append_of_le_length within]

open JournalEntry in
/-- Until the teardown gets to the scheduler, the journal tells of streams only. -/
theorem Flags.ledger_early {attaches : List (Except ControlError Unit)} {asked : Nat} {k : Kernel}
    {h : Handle} (f : Flags attaches asked k h) (early : h.teardown.rank < 5) (won : Bool) :
    h.ledger won =
      (if won then [schedulerAttached h.registry.structOps.name] else []) ++
      (if h.exits.isFinished then [released Contract.exit] else []) ++
      (if h.dispatch.phase = .finished then [released Contract.dispatched] else []) ++
      (if h.queued.isFinished then [released Contract.queued] else []) := by
  have undone : h.teardown ≠ .done := by
    intro done
    simp [done, Teardown.rank] at early
  simp [ledger, f.allProbes early, undone, Nat.not_le.mpr early]

namespace Written

open Teardown (rank)

variable {opening es : List JournalEntry} {won won' : Bool} {died : Option Nat} {k k' : Kernel}
  {h h' : Handle} {attaches : List (Except ControlError Unit)} {asked : Nat}

/-- The ledger and the journal grow by the same entries. -/
theorem grow (w : Written opening won died k h) (journal : k'.journal = k.journal ++ es)
    (ledger : h'.ledger won' = h.ledger won ++ es)
    (phase : h'.dispatch.phase = .dead ↔ h.dispatch.phase = .dead) :
    Written opening won' died k' h' where
  dead := w.dead.trans phase.symm
  early n at_ := by
    rw [ledger, ← List.append_assoc, List.length_append]
    exact Nat.le_add_right_of_le (w.early n at_)
  journal := by
    rw [ledger, ← List.append_assoc, withDeath_append w.early, journal, w.journal]

/-- The journal of a load that succeeds ends with what was acquired. -/
theorem fresh {c : Controller} {registry : Registry} {artifact : Artifact} {k₀ : Kernel}
    (loaded : h.Loaded c registry) (hosts : k₀.Hosts artifact registry k) :
    Written (k₀.journal ++ .loaded artifact.describe :: registry.plan.map Acquisition.acquired)
      false none k h where
  dead := by simp [loaded.dispatch]
  early := nofun
  journal := by
    obtain ⟨_, queued⟩ := loaded.queued
    obtain ⟨_, exits⟩ := loaded.exits
    have none : h.ledger false = [] := by
      simp [ledger, loaded.dispatch, queued, exits, loaded.teardown, loaded.probes,
        loaded.registry, Registry.links, EventStream.isFinished]
    rw [none, List.append_nil]
    exact hosts.journal

theorem still (w : Written opening won died k h) (lived : Lived k [] k') (still : h.Still h') :
    Written opening won died k' h' := by
  refine w.grow lived.journal ?_ (by rw [still.dispatch.phase])
  simp [ledger, still.exits.ended, still.dispatch.phase, still.queued.ended, still.teardown,
    still.registry, still.probes]

/-- The journal gains the attachment of the scheduler just if an attach is granted. -/
theorem attach (w : Written opening (Handle.won attaches) died k h) (s : h.Staged)
    (f : Flags attaches asked k h) :
    Written opening (Handle.won (attaches ++ [(h.attach k).1])) died (h.attach k).2.1
      (h.attach k).2.2 := by
  cases asks : h.asks
  · rw [attach_of_not_asks asks]
    simpa using w
  · obtain ⟨opened, untried⟩ := Flags.opened_of_asks asks
    obtain ⟨begun, -⟩ := f.untouched opened untried
    have unwon : Handle.won attaches = false := by simp [Handle.won, (f.untried untried).2]
    rcases attach_of_asks asks k with ⟨e, -, answer⟩ | ⟨l, k', -, attached, answer⟩
    · rw [answer]
      rw [unwon] at w
      simp only [won_append_error, unwon]
      exact ⟨w.dead, w.early, w.journal⟩
    · rw [answer, attached]
      -- nothing of the teardown has happened
      have early : h.teardown.rank < 1 := by simp [begun, rank]
      refine w.grow rfl ?_ Iff.rfl
      rw [unwon]
      simp [ledger, withScheduler, Handle.won, s.exits_runs early, s.dispatch_runs (by omega),
        s.queued_runs (by omega), f.allProbes (by omega), begun, rank]

/-- A poll thread ends in this step, or it is as far as before. -/
theorem poll_cases {α : Type} [EventRecord α] (k : Kernel) {s : EventStream α}
    (ends : s.isFinished = true → s.stop = true) :
    s.isFinished = false ∧ (s.advance k).2.isFinished = true ∧
        (s.advance k).1.journal = k.journal ++ [.released s.map] ∨
      (s.advance k).2.isFinished = s.isFinished ∧
        (s.advance k).1.journal = k.journal ++ [] := by
  have lived := s.lived_advance k
  have stays := (Staged.poll_ends k ends).2.2.2
  cases before : s.isFinished <;> cases after : (s.advance k).2.isFinished
  · exact .inr ⟨rfl, by simpa [before, after] using lived.journal⟩
  · exact .inl ⟨rfl, rfl, by simpa [before, after] using lived.journal⟩
  · simp [stays before] at after
  · exact .inr ⟨rfl, by simpa [before, after] using lived.journal⟩

/-- When a poll thread ends, its ring is released, and this is the next entry of the ledger. -/
theorem pollExits (w : Written opening won died k h) (s : h.Staged) (f : Flags attaches asked k h) :
    Written opening won died (h.exits.advance k).1 { h with exits := (h.exits.advance k).2 } := by
  have f' : Flags attaches asked (h.exits.advance k).1
      { h with exits := (h.exits.advance k).2 } :=
    f.frame (h.exits.lived_advance k) rfl rfl rfl rfl rfl rfl rfl
  rcases poll_cases k s.exitsEnd with ⟨before, after, journal⟩ | ⟨same, journal⟩
  · -- the teardown waits for the stream, or has not begun
    have early : h.teardown.rank < 2 := by
      by_cases past : 2 ≤ h.teardown.rank
      · simp [s.exitsDone past] at before
      · omega
    refine w.grow journal ?_ Iff.rfl
    rw [f.ledger_early (by omega), f'.ledger_early (by simp only; omega)]
    simp [before, after, s.exitsMap, s.dispatch_runs early, s.queued_runs (by omega)]
  · exact w.grow journal (by simp [ledger, same]) Iff.rfl

theorem pollQueued (w : Written opening won died k h) (s : h.Staged)
    (f : Flags attaches asked k h) :
    Written opening won died (h.queued.advance k).1
      { h with queued := (h.queued.advance k).2 } := by
  have f' : Flags attaches asked (h.queued.advance k).1
      { h with queued := (h.queued.advance k).2 } :=
    f.frame (h.queued.lived_advance k) rfl rfl rfl rfl rfl rfl rfl
  rcases poll_cases k s.queuedEnd with ⟨before, after, journal⟩ | ⟨same, journal⟩
  · have early : h.teardown.rank < 4 := by
      by_cases past : 4 ≤ h.teardown.rank
      · simp [s.queuedDone past] at before
      · omega
    refine w.grow journal ?_ Iff.rfl
    rw [f.ledger_early (by omega), f'.ledger_early (by simp only; omega)]
    simp [before, after, s.queuedMap]
  · exact w.grow journal (by simp [ledger, same]) Iff.rfl

/-- When the flush thread ends by itself, the release of its ring is the next entry of the ledger;
when it dies, the release is noted where the journal stands. -/
theorem flush (w : Written opening won died k h) (s : h.Staged) (f : Flags attaches asked k h) :
    Written opening won (noteDeath died k { h with dispatch := (h.dispatch.advance k).2 })
      (h.dispatch.advance k).1 { h with dispatch := (h.dispatch.advance k).2 } := by
  have f' : Flags attaches asked (h.dispatch.advance k).1
      { h with dispatch := (h.dispatch.advance k).2 } :=
    f.frame (h.dispatch.lived_advance k) rfl rfl rfl rfl rfl rfl rfl
  -- while the thread runs, the teardown waits for it, or has not come to it
  have early : h.dispatch.isFinished = false → h.teardown.rank < 3 := by
    intro runs
    by_cases past : 3 ≤ h.teardown.rank
    · simp [s.dispatchDone past] at runs
    · omega
  rcases h.dispatch.flush_cases k with ⟨runs, after, journal⟩ | ⟨runs, after, journal⟩ |
    ⟨finished, dead, journal⟩
  · -- it finishes
    have alive : h.dispatch.phase ≠ .finished ∧ h.dispatch.phase ≠ .dead :=
      DispatchStream.phase_ne_of_runs runs
    have still : noteDeath died k { h with dispatch := (h.dispatch.advance k).2 } = died := by
      simp [noteDeath, after]
    rw [still]
    refine w.grow journal ?_ (by simp [after, alive.2])
    rw [f.ledger_early (by have := early runs; omega),
      f'.ledger_early (by have := early runs; simp only; omega)]
    simp [after, alive.1, s.dispatchMap, s.queued_runs (early runs)]
  · -- it dies: this is where the release stands from now on
    have alive : h.dispatch.phase ≠ .finished ∧ h.dispatch.phase ≠ .dead :=
      DispatchStream.phase_ne_of_runs runs
    have before : died = none := by
      simpa [alive.2, Option.isSome_iff_ne_none] using w.dead
    subst before
    have whole : k.journal = opening ++ h.ledger won := w.journal
    have same : ledger won { h with dispatch := (h.dispatch.advance k).2 } = h.ledger won := by
      simp [ledger, after, alive.1]
    simp only [noteDeath, after, and_self, if_true]
    refine ⟨by simp [after], fun n at_ => ?_, ?_⟩
    · cases at_
      exact Nat.le_of_eq (by rw [same, whole])
    · rw [same, journal, ← whole, s.dispatchMap]
      simp [withDeath]
  · -- it runs on, or it had ended before
    have still : noteDeath died k { h with dispatch := (h.dispatch.advance k).2 } = died := by
      have agree := w.dead
      simp only [noteDeath, dead, ← agree]
      cases died <;> simp
    rw [still]
    exact w.grow journal (by simp [ledger, finished]) dead

theorem beginClose (w : Written opening won died k h) (f : Flags attaches asked k h) :
    Written opening won died k h.beginClose := by
  have f' := f.beginClose
  unfold Handle.beginClose at f' ⊢
  split
  · exact w
  · next closed =>
    have begun : h.teardown = .notBegun := by simpa [closed] using f.closed
    rw [if_neg closed] at f'
    refine w.grow (List.append_nil _).symm ?_ Iff.rfl
    rw [f.ledger_early (by simp [begun, rank]), f'.ledger_early (by simp [rank])]
    simp

/-- Detaching the last probe that is left. -/
theorem ledger_dropLast {l : Link} (last : h.probes.getLast? = some l)
    (first : h.probes <+: h.registry.links) (here : h.teardown = .probes) (won : Bool) :
    ledger won { h with probes := h.probes.dropLast } = h.ledger won ++ [.detached l.label] := by
  obtain ⟨init, split⟩ := List.getLast?_eq_some_iff.mp last
  obtain ⟨rest, whole⟩ := first
  rw [split] at whole
  simp [ledger, here, split, ← whole]

/-- Each step of the teardown writes the next entries of the ledger, or none. -/
theorem teardown (w : Written opening (Handle.won attaches) died k h)
    (f : Flags attaches asked k h) (move : h.TeardownMove k k' h') :
    Written opening (Handle.won attaches) died k' h' := by
  -- a step that writes nothing
  have silent {h' : Handle}
      (ledger : h'.ledger (Handle.won attaches) = h.ledger (Handle.won attaches))
      (phase : h'.dispatch.phase = h.dispatch.phase) :
      Written opening (Handle.won attaches) died k h' :=
    w.grow (List.append_nil _).symm (by rw [ledger, List.append_nil]) (by rw [phase])
  cases move with
  | rest => exact w
  | askExits | askQueued => exact silent rfl rfl
  | closeDispatch =>
    exact silent (by simp [ledger, h.dispatch.phase_closeStep]) h.dispatch.phase_closeStep
  | passExits here | passDispatch here | passQueued here | passProbes here =>
    exact silent (by simp [ledger, here, rank]) rfl
  | dropScheduler here =>
    have early : h.teardown.rank < 5 := by simp [here, rank]
    rw [f.detachAll_scheduler early]
    cases lost : Handle.won attaches
    · rw [lost] at silent
      exact silent (by simp [ledger, here]) rfl
    · rw [lost] at w
      refine w.grow rfl ?_ Iff.rfl
      rw [f.ledger_early early]
      simp [ledger, f.allProbes early, rank]
  | dropProbe here last =>
    exact w.grow (k.lived_detach (f.isScheduler_last last)).journal
      (ledger_dropLast last f.probes here _) Iff.rfl
  | unload here =>
    have loaded : k.unloaded = false := by simpa [here] using f.unloaded
    rw [Kernel.close_of_loaded loaded]
    exact w.grow rfl (by simp [ledger, here, rank]) Iff.rfl

end Written

end Handle

end SchedPlane
