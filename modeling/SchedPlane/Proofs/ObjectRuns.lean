/-
SchedPlane/Proofs/ObjectRuns.lean

Runs of a bare object.

A run starts with an object that was just built, without faults, and makes operations of a
session on it in any order: what the kernel does by itself, loads, attaches, links that are
detached or dropped, rings that are bound, opened, read, written and dropped, runs of
subprograms, reads of values and closes.  The run remembers what was got done: successful loads,
the answers of closes, and the records that went into a ring or came out of one.

Three invariants hold along every run, by one case for a move: the flag, the journal and the live
resources keep step (`Balanced`), every record is in one place (`Flowing`), and the object is
handed out and unloaded once (`Once`).

Main result: `object_consistent`.
-/
import Mathlib.Data.List.Count
import SchedPlane.Proofs.ObjectMoves

namespace SchedPlane

/-! ### Counting the entries of a table -/

namespace Table

variable {α : Type} {t : Table α} {name : String} {value old : α} {p : α → Bool}

/-- The number of values with a property. -/
def tally (p : α → Bool) (t : Table α) : Nat :=
  t.countP fun e => p e.2

/-- No name stands twice. -/
def Distinct (t : Table α) : Prop :=
  (t.map Prod.fst).Nodup

/-- The entry of a name is replaced, or there is one entry more. -/
theorem tally_set (p : α → Bool) (name : String) (value : α) (t : Table α) :
    (t.set name value).tally p + ((t.get? name).map fun old => (p old).toNat).getD 0 =
      t.tally p + (p value).toNat := by
  induction t with
  | nil => cases present : p value <;> simp [set, get?, tally, present]
  | cons e rest ih =>
    obtain ⟨k, v⟩ := e
    by_cases here : k = name
    · simp only [set, get?, here, if_true, tally, List.countP_cons, Option.map_some,
        Option.getD_some]
      cases p v <;> cases p value <;> simp
    · simp only [set, get?, here, if_false, tally, List.countP_cons] at ih ⊢
      omega

theorem erase_of_absent (absent : name ∉ t.map Prod.fst) : t.erase name = t := by
  refine List.filter_eq_self.mpr fun e mem => ?_
  have other : e.1 ≠ name := fun same => absent (same ▸ List.mem_map_of_mem mem)
  simpa using other

/-- The entry of a name is removed. -/
theorem tally_erase (distinct : t.Distinct) (found : t.get? name = some old) :
    (t.erase name).tally p + (p old).toNat = t.tally p := by
  induction t with
  | nil => cases found
  | cons e rest ih =>
    obtain ⟨k, v⟩ := e
    simp only [Distinct, List.map_cons, List.nodup_cons] at distinct
    by_cases here : k = name
    · subst here
      simp only [get?, if_true, Option.some.injEq] at found
      subst found
      -- the name stands nowhere else, so the rest is not touched
      have alone : erase k ((k, v) :: rest) = rest := by
        have step : erase k ((k, v) :: rest) = erase k rest := by simp [erase]
        rw [step, erase_of_absent distinct.1]
      rw [alone]
      simp only [tally, List.countP_cons]
      cases p v <;> simp
    · simp only [get?, here, if_false] at found
      have later := ih distinct.2 found
      have kept : erase name ((k, v) :: rest) = (k, v) :: erase name rest := by
        simp [erase, here]
      rw [kept]
      simp only [tally, List.countP_cons] at later ⊢
      omega

/-- A key that is set twice stays in its place. -/
theorem keys_set (name : String) (value : α) (t : Table α) :
    (t.set name value).map Prod.fst =
      if name ∈ t.map Prod.fst then t.map Prod.fst else t.map Prod.fst ++ [name] := by
  induction t with
  | nil => simp [set]
  | cons e rest ih =>
    obtain ⟨k, v⟩ := e
    by_cases here : k = name
    · simp [set, here]
    · have there : name ≠ k := Ne.symm here
      simp only [set, here, if_false, List.map_cons, ih, List.mem_cons, there, false_or]
      split <;> simp

theorem Distinct.set (distinct : t.Distinct) (name : String) (value : α) :
    (t.set name value).Distinct := by
  simp only [Distinct, keys_set]
  split
  · exact distinct
  · next absent =>
    refine List.nodup_append.mpr ⟨distinct, by simp, ?_⟩
    intro a mem b last same
    rw [List.mem_singleton] at last
    exact absent (last ▸ same ▸ mem)

theorem Distinct.erase (distinct : t.Distinct) (name : String) : (t.erase name).Distinct :=
  distinct.sublist (List.filter_sublist.map _)

end Table

namespace Session

variable {s s' : Session}

/-! ### Links, opened rings and the journal -/

/-- The attaches of a label in the journal, less its detaches. -/
def linkBalance (k : Kernel) (x : String) : Int :=
  k.journal.count (.attached x) + k.journal.count (.schedulerAttached x) -
    k.journal.count (.detached x)

/-- The times the ring of a map was opened, less the times it was released. -/
def ringBalance (k : Kernel) (m : String) : Int :=
  k.journal.count (.opened m) - k.journal.count (.released m)

/-- What a step adds to the balance of a label. -/
def linkWeight (x : String) : JournalEntry → Int
  | .attached y | .schedulerAttached y => (decide (y = x)).toNat
  | .detached y => -(decide (y = x)).toNat
  | _ => 0

/-- What a step adds to the balance of a ring. -/
def ringWeight (m : String) : JournalEntry → Int
  | .opened n => (decide (n = m)).toNat
  | .released n => -(decide (n = m)).toNat
  | _ => 0

theorem linkBalance_record (k : Kernel) (e : JournalEntry) (x : String) :
    linkBalance (k.record e) x = linkBalance k x + linkWeight x e := by
  cases e with
  | attached y | schedulerAttached y | detached y =>
    by_cases same : y = x <;> simp [linkBalance, linkWeight, Kernel.record, same]
    all_goals omega
  | _ => simp [linkBalance, linkWeight, Kernel.record]

theorem ringBalance_record (k : Kernel) (e : JournalEntry) (m : String) :
    ringBalance (k.record e) m = ringBalance k m + ringWeight m e := by
  cases e with
  | opened n | released n =>
    by_cases same : n = m <;> simp [ringBalance, ringWeight, Kernel.record, same]
    all_goals omega
  | _ => simp [ringBalance, ringWeight, Kernel.record]

/-- A link weighs one while it is held. -/
theorem linkBalance_withLink (k : Kernel) (l : Link) (x : String) :
    linkBalance (withLink k l) x = linkBalance k x + (decide (l.label = x)).toNat := by
  unfold withLink
  rw [linkBalance_record]
  cases l.isScheduler <;> rfl

/-- A link does not count among the rings. -/
theorem ringBalance_withLink (k : Kernel) (l : Link) (m : String) :
    ringBalance (withLink k l) m = ringBalance k m := by
  unfold withLink
  rw [ringBalance_record]
  cases l.isScheduler <;> exact Int.add_zero _

/-- A link that is released weighs nothing. -/
theorem linkBalance_release (k : Kernel) (l : Link) (x : String) :
    linkBalance (k.release l) x = linkBalance k x - (decide (l.label = x)).toNat :=
  linkBalance_record _ _ x

theorem ringBalance_release (k : Kernel) (l : Link) (m : String) :
    ringBalance (k.release l) m = ringBalance k m :=
  (ringBalance_record _ _ m).trans (Int.add_zero _)

theorem linkBalance_releaseRing (k : Kernel) (map x : String) :
    linkBalance (k.releaseRing map) x = linkBalance k x :=
  (linkBalance_record _ _ x).trans (Int.add_zero _)

theorem ringBalance_releaseRing (k : Kernel) (map m : String) :
    ringBalance (k.releaseRing map) m = ringBalance k m - (decide (map = m)).toNat :=
  ringBalance_record _ _ m

/-- A link that takes the place of another releases it. -/
theorem linkBalance_relinked (k : Kernel) (l : Link) (old : Option Link) (x : String) :
    linkBalance (relinked k l old) x + (old.map fun l => (decide (l.label = x)).toNat).getD 0 =
      linkBalance k x + (decide (l.label = x)).toNat := by
  cases old with
  | none => exact (Int.add_zero _).trans (linkBalance_withLink k l x)
  | some old =>
    simp only [relinked, Option.map_some, Option.getD_some, linkBalance_release,
      linkBalance_withLink]
    omega

theorem ringBalance_relinked (k : Kernel) (l : Link) (old : Option Link) (m : String) :
    ringBalance (relinked k l old) m = ringBalance k m := by
  cases old with
  | none => exact ringBalance_withLink k l m
  | some old => rw [relinked, ringBalance_release, ringBalance_withLink]

theorem linkBalance_reopened (k : Kernel) (map : String) (old : Option String) (x : String) :
    linkBalance (reopened k map old) x = linkBalance k x := by
  cases old <;> simp [reopened, linkBalance_releaseRing, linkBalance_record, linkWeight]

/-- A ring that takes the place of another releases it. -/
theorem ringBalance_reopened (k : Kernel) (map : String) (old : Option String) (m : String) :
    ringBalance (reopened k map old) m + (old.map fun map => (decide (map = m)).toNat).getD 0 =
      ringBalance k m + (decide (map = m)).toNat := by
  cases old with
  | none => simp [reopened, ringBalance_record, ringWeight]
  | some old =>
    simp only [reopened, ringBalance_releaseRing, ringBalance_record, ringWeight, Option.map_some,
      Option.getD_some]
    omega

/-- The flag goes with the link that is counted in it. -/
theorem attached_release {k : Kernel} {l : Link}
    (counted : l.isScheduler.toNat ≤ k.attached.toNat) :
    (k.release l).attached.toNat = k.attached.toNat - l.isScheduler.toNat := by
  simp only [Kernel.release, Kernel.record]
  cases kind : l.isScheduler <;> cases flag : k.attached <;> simp [kind, flag] at counted ⊢

/-- Attaching a scheduler raises the flag, which was down. -/
theorem attached_withLink {k : Kernel} {l : Link}
    (alone : l.isScheduler = true → k.attached = false) :
    (withLink k l).attached.toNat = k.attached.toNat + l.isScheduler.toNat := by
  simp only [withLink, Kernel.record]
  cases kind : l.isScheduler
  · simp
  · simp [alone kind]

/-- The flag counts a new scheduler in and the one whose name it takes out. -/
theorem attached_relinked {k : Kernel} {l : Link} (old : Option Link)
    (alone : l.isScheduler = true → k.attached = false)
    (counted : (old.map fun l => l.isScheduler.toNat).getD 0 ≤
      k.attached.toNat + l.isScheduler.toNat) :
    (relinked k l old).attached.toNat + (old.map fun l => l.isScheduler.toNat).getD 0 =
      k.attached.toNat + l.isScheduler.toNat := by
  have raised := attached_withLink alone
  cases old with
  | none => exact raised
  | some old =>
    simp only [Option.map_some, Option.getD_some] at counted ⊢
    rw [relinked, attached_release] <;> omega

/-- The flag, the journal and the live resources keep step. -/
structure Balanced (s : Session) : Prop where
  links : s.links.Distinct
  pollers : s.pollers.Distinct
  writers : s.writers.Distinct
  labels : ∀ x, linkBalance s.kernel x = s.links.tally (·.label = x)
  flag : s.links.tally (·.isScheduler) = s.kernel.attached.toNat
  rings : ∀ m, ringBalance s.kernel m = s.pollers.tally (·.map = m) + s.writers.tally (· = m)

/-- Every move enters in the journal what it does to the links and the opened rings. -/
theorem Balanced.move {es : List Event} (move : ObjectMove s es s') (h : s.Balanced) :
    s'.Balanced := by
  obtain ⟨links, pollers, writers, labels, flag, rings⟩ := h
  cases move with
  | keep alike =>
    refine ⟨links, pollers, writers, ?_, ?_, ?_⟩
    · simpa [linkBalance, alike.journal] using labels
    · simpa [alike.attached] using flag
    · simpa [ringBalance, alike.journal] using rings
  | ends | closeAgain | accept | take => exact ⟨links, pollers, writers, labels, flag, rings⟩
  | load | close =>
    -- steps of another kind weigh nothing
    exact ⟨links, pollers, writers,
      fun x => (linkBalance_record _ _ x).trans ((Int.add_zero _).trans (labels x)), flag,
      fun m => (ringBalance_record _ _ m).trans ((Int.add_zero _).trans (rings m))⟩
  | @attach l id alone =>
    refine ⟨links.set id l, pollers, writers, fun x => ?_, ?_, fun m => ?_⟩
    · have counted := s.links.tally_set (fun l => decide (l.label = x)) id l
      have entered := linkBalance_relinked s.kernel l (s.links.get? id) x
      have before := labels x
      simp only
      omega
    · have counted := s.links.tally_set (·.isScheduler) id l
      -- the link whose name is taken was counted in the flag
      have raised := attached_relinked (s.links.get? id) alone (by omega)
      simp only
      omega
    · rw [ringBalance_relinked]
      exact rings m
  | @detach id l found =>
    refine ⟨links.erase id, pollers, writers, fun x => ?_, ?_, fun m => ?_⟩
    · have counted := Table.tally_erase (p := fun l => decide (l.label = x)) links found
      have before := labels x
      simp only [linkBalance_release]
      omega
    · have counted := Table.tally_erase (p := (·.isScheduler)) links found
      simp only
      rw [attached_release] <;> omega
    · rw [ringBalance_release]
      exact rings m
  | openPoller id map failing =>
    refine ⟨links, pollers.set id _, writers, fun x => ?_, ?_, fun m => ?_⟩
    · rw [linkBalance_reopened]
      exact labels x
    · rw [(reopened_frame ..).2.2.2.2]
      exact flag
    · have counted := s.pollers.tally_set (fun p => decide (p.map = m)) id ⟨map, failing⟩
      have opened := ringBalance_reopened s.kernel map ((s.pollers.get? id).map (·.map)) m
      have before := rings m
      simp only [Option.map_map, Function.comp_def] at counted opened ⊢
      omega
  | openWriter id map =>
    refine ⟨links, pollers, writers.set id _, fun x => ?_, ?_, fun m => ?_⟩
    · rw [linkBalance_reopened]
      exact labels x
    · rw [(reopened_frame ..).2.2.2.2]
      exact flag
    · have counted := s.writers.tally_set (fun map => decide (map = m)) id map
      have opened := ringBalance_reopened s.kernel map (s.writers.get? id) m
      have before := rings m
      simp only
      omega
  | @miss id p failing found =>
    refine ⟨links, pollers.set id _, writers, labels, flag, fun m => ?_⟩
    have counted := s.pollers.tally_set (fun p => decide (p.map = m)) id { p with failing }
    have before := rings m
    simp only [found, Option.map_some, Option.getD_some] at counted ⊢
    omega
  | @dropPoller id p found =>
    refine ⟨links, pollers.erase id, writers, fun x => ?_, flag, fun m => ?_⟩
    · rw [linkBalance_releaseRing]
      exact labels x
    · have counted := Table.tally_erase (p := fun p => decide (p.map = m)) pollers found
      have before := rings m
      simp only [ringBalance_releaseRing]
      omega
  | @dropWriter id map found =>
    refine ⟨links, pollers, writers.erase id, fun x => ?_, flag, fun m => ?_⟩
    · rw [linkBalance_releaseRing]
      exact labels x
    · have counted := Table.tally_erase (p := fun map => decide (map = m)) writers found
      have before := rings m
      simp only [ringBalance_releaseRing]
      omega

/-! ### Records -/

/-- The records that went into the ring of a map, the first one first. -/
def acceptedBy (m : String) (es : List Event) : List Bytes :=
  es.filterMap fun
    | .accepted map b => if map = m then some b else none
    | _ => none

/-- The records that came out of the ring of a map, the first one first. -/
def takenFrom (m : String) (es : List Event) : List Bytes :=
  es.filterMap fun
    | .took map b => if map = m then some b else none
    | _ => none

/-- Every record came out of its ring or waits in it, and no ring holds more than it can. -/
structure Flowing (capacity : Nat) (s : Session) (es : List Event) : Prop where
  order : ∀ m, acceptedBy m es = takenFrom m es ++ s.kernel.waiting m
  room : ∀ m r, s.kernel.rings.get? m = some r →
    r.records.length ≤ r.capacity ∧ r.capacity = capacity

variable {capacity : Nat} {es es' : List Event}

theorem acceptedBy_append (m : String) (es es' : List Event) :
    acceptedBy m (es ++ es') = acceptedBy m es ++ acceptedBy m es' :=
  List.filterMap_append

theorem takenFrom_append (m : String) (es es' : List Event) :
    takenFrom m (es ++ es') = takenFrom m es ++ takenFrom m es' :=
  List.filterMap_append

theorem acceptedBy_took (m map : String) (bs : List Bytes) :
    acceptedBy m (bs.map (.took map)) = [] := by
  simp [acceptedBy, List.filterMap_map]

theorem takenFrom_took (m map : String) (bs : List Bytes) :
    takenFrom m (bs.map (.took map)) = if map = m then bs else [] := by
  by_cases same : map = m <;> simp [takenFrom, List.filterMap_map, same]

/-- What leaves the rings alone leaves their records alone. -/
theorem Flowing.quiet (h : Flowing capacity s es) (rings : s'.kernel.rings = s.kernel.rings)
    (accepted : ∀ m, acceptedBy m es' = []) (taken : ∀ m, takenFrom m es' = []) :
    Flowing capacity s' (es ++ es') where
  order m := by
    rw [acceptedBy_append, takenFrom_append, accepted, taken, List.append_nil, List.append_nil,
      h.order m, Kernel.waiting, Kernel.waiting, rings]
  room m r found := h.room m r (rings ▸ found)

/-- A ring is refilled: its own records are accounted for and fit, and no other ring is touched. -/
theorem Flowing.refill {map : String} {r : Ring} {records : List Bytes}
    (h : Flowing capacity s es) (found : s.kernel.rings.get? map = some r)
    (fits : records.length ≤ r.capacity)
    (order : acceptedBy map (es ++ es') = takenFrom map (es ++ es') ++ records)
    (others : ∀ m, map ≠ m → acceptedBy m es' = [] ∧ takenFrom m es' = []) :
    Flowing capacity { s with kernel := s.kernel.setRing map { r with records } } (es ++ es') where
  order m := by
    by_cases same : map = m
    · subst same
      rw [order, Kernel.waiting_setRing]
    · have ⟨accepted, taken⟩ := others m same
      rw [acceptedBy_append, takenFrom_append, accepted, taken, List.append_nil, List.append_nil,
        h.order m, Kernel.waiting_setRing_of_ne _ same]
  room m ring held := by
    change (s.kernel.rings.set map { r with records }).get? m = some ring at held
    by_cases same : map = m
    · subst same
      rw [Table.get?_set_self] at held
      cases held
      exact ⟨fits, (h.room map r found).2⟩
    · rw [Table.get?_set_of_ne same] at held
      exact h.room m ring held

/-- Records are put behind and taken in front of those that wait, and fit into the ring. -/
theorem Flowing.move (move : ObjectMove s es' s') (h : Flowing capacity s es) :
    Flowing capacity s' (es ++ es') := by
  cases move with
  | keep alike => exact h.quiet alike.rings (fun _ => rfl) fun _ => rfl
  | ends | load | close | closeAgain | detach | miss | dropPoller | dropWriter =>
    exact h.quiet rfl (fun _ => rfl) fun _ => rfl
  | attach => exact h.quiet (relinked_frame ..).1 (fun _ => rfl) fun _ => rfl
  | openPoller | openWriter => exact h.quiet (reopened_frame ..).1 (fun _ => rfl) fun _ => rfl
  | @accept map b r found free =>
    -- the record goes behind those that wait, and there is room for it
    have before := h.order map
    rw [Kernel.waiting_of_get? found] at before
    refine h.refill found (by simpa using Nat.succ_le_of_lt free) ?_ fun m other => ?_
    · rw [acceptedBy_append, takenFrom_append, before]
      simp [acceptedBy, takenFrom]
    · simp [acceptedBy, takenFrom, other]
  | @take map bs rest r found front =>
    have before := h.order map
    have fits := (h.room map r found).1
    rw [Kernel.waiting_of_get? found, front] at before
    rw [front, List.length_append] at fits
    refine h.refill found (by omega) ?_ fun m other => ?_
    · rw [acceptedBy_append, takenFrom_append, before, acceptedBy_took, takenFrom_took]
      simp
    · simp [acceptedBy_took, takenFrom_took, other]

/-! ### Loads and closes -/

/-- The answers of the closes. -/
def closeAnswers (es : List Event) : List Answer :=
  es.filterMap fun
    | .closed a => some a
    | _ => none

/-- The object is handed out once and unloaded once. -/
structure Once (s : Session) (es : List Event) : Prop where
  loads : es.count .loaded = s.kernel.handedOut.toNat
  held : s.objectHeld = s.kernel.handedOut
  faultless : s.kernel.faults = {}
  unloaded : s.kernel.unloaded = true → s.kernel.handedOut = true
  unclosed : s.kernel.unloaded = false → closeAnswers es = []
  /-- The first close works, and the later ones are refused. -/
  closed : s.kernel.unloaded = true →
    ∃ n, closeAnswers es = .ok :: List.replicate n (.objectError .unloaded)

theorem closeAnswers_append (es es' : List Event) :
    closeAnswers (es ++ es') = closeAnswers es ++ closeAnswers es' :=
  List.filterMap_append

/-- What neither hands out nor unloads changes nothing of it. -/
theorem Once.quiet (h : Once s es) (handedOut : s'.kernel.handedOut = s.kernel.handedOut)
    (held : s'.objectHeld = s.objectHeld) (faults : s'.kernel.faults = s.kernel.faults)
    (unloaded : s'.kernel.unloaded = s.kernel.unloaded) (loads : es'.count .loaded = 0)
    (closes : closeAnswers es' = []) : Once s' (es ++ es') where
  loads := by rw [List.count_append, loads, handedOut]; exact h.loads
  held := by rw [held, handedOut]; exact h.held
  faultless := faults.trans h.faultless
  unloaded gone := by rw [handedOut]; exact h.unloaded (unloaded ▸ gone)
  unclosed still := by
    rw [closeAnswers_append, closes, List.append_nil]
    exact h.unclosed (unloaded ▸ still)
  closed gone := by
    rw [closeAnswers_append, closes, List.append_nil]
    exact h.closed (unloaded ▸ gone)

/-- Of all closes one is answered with success. -/
theorem Once.move (move : ObjectMove s es' s') (h : Once s es) : Once s' (es ++ es') := by
  cases move with
  | keep alike => exact h.quiet alike.handedOut rfl alike.faults alike.unloaded rfl rfl
  | ends | accept | detach | miss | dropPoller | dropWriter =>
    exact h.quiet rfl rfl rfl rfl rfl rfl
  | attach =>
    obtain ⟨-, handedOut, faults, unloaded⟩ := relinked_frame s.kernel _ _
    exact h.quiet handedOut rfl faults unloaded rfl rfl
  | openPoller | openWriter =>
    obtain ⟨-, handedOut, faults, unloaded, -⟩ := reopened_frame s.kernel _ _
    exact h.quiet handedOut rfl faults unloaded rfl rfl
  | @take map bs =>
    refine h.quiet rfl rfl rfl rfl ?_ ?_
    · simp [List.count_eq_zero]
    · simp [closeAnswers, List.filterMap_map]
  | load artifact fresh =>
    -- a load is accepted where none was before
    refine ⟨?_, rfl, h.faultless, fun _ => rfl, fun still => ?_, fun gone => ?_⟩
    · have none := h.loads
      rw [fresh] at none
      rw [List.count_append, none]
      rfl
    · rw [closeAnswers_append, h.unclosed still]
      rfl
    · obtain ⟨n, answers⟩ := h.closed gone
      exact ⟨n, by rw [closeAnswers_append, answers]; simp [closeAnswers]⟩
  | close held loaded =>
    refine ⟨?_, h.held, h.faultless, fun _ => h.held ▸ held, fun still => (nomatch still),
      fun _ => ⟨0, ?_⟩⟩
    · rw [List.count_append, h.loads]
      rfl
    · -- the first close of a loaded object, for which no failure is planned
      have answer : s.kernel.close.1 = .ok () := by simp [Kernel.close, loaded, h.faultless]
      rw [closeAnswers_append, h.unclosed loaded, answer]
      rfl
  | closeAgain unloaded =>
    refine ⟨?_, h.held, h.faultless, h.unloaded, fun still => ?_, fun _ => ?_⟩
    · rw [List.count_append, h.loads]
      rfl
    · rw [unloaded] at still
      cases still
    · obtain ⟨n, answers⟩ := h.closed unloaded
      refine ⟨n + 1, ?_⟩
      rw [closeAnswers_append, answers, List.replicate_succ']
      rfl

/-! ### Runs -/

/-- The books of an object whose rings have a given capacity. -/
structure Books (capacity : Nat) (s : Session) (es : List Event) : Prop where
  bare : s.Bare
  balanced : s.Balanced
  flowing : Flowing capacity s es
  once : Once s es

/-- The books hold after any sequence of moves. -/
theorem Books.moves (moves : ObjectMoves s es' s') (h : Books capacity s es) :
    Books capacity s' (es ++ es') := by
  induction moves generalizing es with
  | none => simpa using h
  | more first _ ih =>
    rw [← List.append_assoc]
    exact ih ⟨first.bare h.bare, h.balanced.move first, h.flowing.move first, h.once.move first⟩

end Session

/-- A run of an object: the session it has come to, and what was got done, oldest event first. -/
structure ObjectRun where
  session : Session
  events : List Session.Event := []

namespace ObjectRun

/-- An object that was just built. -/
def start (p : Blueprint) (config : Config) : ObjectRun where
  session := { kernel := p.build, config }

/-- A run with one more operation. -/
def step (r : ObjectRun) (o : Session.Operation) : ObjectRun :=
  let (outcome, s) := r.session.perform o.command
  { session := s, events := r.events ++ r.session.eventsOf o outcome.answer }

/-- Makes operations in order. -/
def run (r : ObjectRun) (operations : List Session.Operation) : ObjectRun :=
  operations.foldl step r

/-- An object that was just built has empty books. -/
theorem start_books (p : Blueprint) (config : Config) :
    Session.Books p.ringCapacity (start p config).session (start p config).events where
  bare := ⟨rfl, rfl, rfl⟩
  balanced := ⟨List.nodup_nil, List.nodup_nil, List.nodup_nil, fun _ => rfl, rfl, fun _ => rfl⟩
  flowing := by
    refine ⟨fun m => (Kernel.waiting_build p {} m).symm, fun m r found => ?_⟩
    rw [Kernel.ring_of_ringTable p.ringCapacity p.maps found]
    exact ⟨Nat.zero_le _, rfl⟩
  once := ⟨rfl, rfl, rfl, fun gone => (nomatch gone), fun _ => rfl, fun gone => (nomatch gone)⟩

/-- No thread runs beside the operations, so the moves of each are all that a run does. -/
theorem run_books (p : Blueprint) (config : Config) (operations : List Session.Operation) :
    Session.Books p.ringCapacity ((start p config).run operations).session
      ((start p config).run operations).events := by
  refine List.foldlRecOn operations step
    (motive := fun r => Session.Books p.ringCapacity r.session r.events) (start_books p config) ?_
  exact fun r books o _ => books.moves (Session.perform_moves books.bare o)

/-! ### What one sees of the books -/

/-- The number of journal entries with a text. -/
def entries (r : ObjectRun) (text : String) : Nat :=
  (r.session.kernel.journal.map JournalEntry.render).count text

/-- The kinds of steps are told apart by their first letters. -/
theorem render_injective : Function.Injective JournalEntry.render := by
  intro e e' same
  have texts := congrArg String.toList same
  cases e <;> cases e' <;> simp [JournalEntry.render] at texts ⊢ <;>
    exact String.toList_inj.mp texts

theorem entries_render (r : ObjectRun) (e : JournalEntry) :
    r.entries e.render = r.session.kernel.journal.count e :=
  List.count_map_of_injective _ _ render_injective e

/-- The operations that an unloaded object refuses. -/
def needsLoaded : Session.ObjectCommand → Bool
  | .run .. | .read _ | .close => true
  | .attachProgram .. | .attachScheduler .. | .bindRing .. | .bindUserRing .. => true
  | _ => false

/-- An unloaded object refuses an operation with the error for it, and nothing changes. -/
theorem perform_of_unloaded {s : Session} {c : Session.ObjectCommand} (bare : s.Bare)
    (held : s.objectHeld = true) (unloaded : s.kernel.unloaded = true)
    (faultless : s.kernel.faults = {}) (needs : needsLoaded c = true) :
    s.perform (.object c) = (⟨.objectError .unloaded, [], none⟩, s) := by
  have reached : s.onObject c = s.onHeldObject c := by simp [Session.onObject, held]
  have refused : s.onHeldObject c = (.objectError .unloaded, s) := by
    cases c <;> cases needs <;>
      simp [Session.onHeldObject, unloaded, faultless, Kernel.run, Kernel.ensureLoaded,
        Kernel.readValue, Kernel.close, Kernel.attachProgram, Kernel.attachScheduler,
        Kernel.bindRing, Session.keepLink, Session.Answer.ofObject, Table.get?, bind, Except.bind]
  simp [Session.perform, Session.execute, reached, refused, bare.settle_eq, Session.handleState,
    bare.handle]

/-- The flag, the journal, the live resources and the rings of an object agree. -/
structure Consistent (p : Blueprint) (r : ObjectRun) : Prop where
  /-- One load works at most. -/
  loads : r.events.count .loaded ≤ 1
  /-- A scheduler is attached exactly if a link says so. -/
  flag : r.session.kernel.attached = true ↔ 0 < r.session.links.tally (·.isScheduler)
  alone : r.session.links.tally (·.isScheduler) ≤ 1
  /-- What was attached under a label was detached, or is a link. -/
  links : ∀ x, (r.entries ("attach:" ++ x) + r.entries ("struct_ops:" ++ x) : Int) -
      r.entries ("detach:" ++ x) =
    r.session.links.tally (·.label = x)
  /-- What was opened on a map was released, or is open for reading or writing. -/
  rings : ∀ m, (r.entries ("open:" ++ m) : Int) - r.entries ("release:" ++ m) =
    r.session.pollers.tally (·.map = m) + r.session.writers.tally (· = m)
  /-- The records that went into a ring came out of it in order, or wait in it. -/
  order : ∀ m, Session.acceptedBy m r.events =
    Session.takenFrom m r.events ++ r.session.kernel.waiting m
  room : ∀ m, (r.session.kernel.waiting m).length ≤ max 1 p.ringCapacity
  /-- The first close works, and the later ones are refused. -/
  closes : Session.closeAnswers r.events = [] ∨
    ∃ n, Session.closeAnswers r.events = .ok :: List.replicate n (.objectError .unloaded)
  /-- After a close, what needs the object is refused. -/
  refusals : Session.closeAnswers r.events ≠ [] → ∀ c, needsLoaded c = true →
    r.session.perform (.object c) = (⟨.objectError .unloaded, [], none⟩, r.session)

/-- **An object keeps consistent books**, however it is planned and whatever is done with it.  It is
loaded at most once, and a scheduler is attached exactly while a link to it is held.  What the
journal says was attached or opened, less what it says was detached or released, are the links and
the ends of rings that are held.  Records leave a ring in the order in which they entered it, and
never more wait than it has room for.  The first close works, and afterwards everything that needs
the object is refused. -/
theorem object_consistent (p : Blueprint) (config : Config)
    (operations : List Session.Operation) :
    Consistent p ((start p config).run operations) := by
  have ⟨bare, balanced, flowing, once⟩ := run_books p config operations
  generalize (start p config).run operations = r at bare balanced flowing once
  refine ⟨?_, ?_, ?_, fun x => ?_, fun m => ?_, flowing.order, fun m => ?_, ?_, fun closed c => ?_⟩
  · rw [once.loads]
    exact Bool.toNat_le _
  · rw [balanced.flag]
    cases r.session.kernel.attached <;> decide
  · rw [balanced.flag]
    exact Bool.toNat_le _
  · have attached := r.entries_render (.attached x)
    have scheduler := r.entries_render (.schedulerAttached x)
    have detached := r.entries_render (.detached x)
    simp only [JournalEntry.render] at attached scheduler detached
    rw [attached, scheduler, detached]
    exact balanced.labels x
  · have opened := r.entries_render (.opened m)
    have released := r.entries_render (.released m)
    simp only [JournalEntry.render] at opened released
    rw [opened, released]
    exact balanced.rings m
  · rcases found : r.session.kernel.rings.get? m with - | ring
    · simp [Kernel.waiting_of_get?_none found]
    · have ⟨fits, size⟩ := flowing.room m ring found
      rw [Kernel.waiting_of_get? found]
      omega
  · cases gone : r.session.kernel.unloaded
    · exact .inl (once.unclosed gone)
    · exact .inr (once.closed gone)
  · have gone : r.session.kernel.unloaded = true := by
      cases still : r.session.kernel.unloaded
      · exact absurd (once.unclosed still) closed
      · rfl
    exact perform_of_unloaded bare (once.held.trans (once.unloaded gone)) gone once.faultless

end ObjectRun

end SchedPlane
