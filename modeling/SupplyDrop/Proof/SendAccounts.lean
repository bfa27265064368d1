import Mathlib
import SupplyDrop.Library.Run
import SupplyDrop.Mesh.SendTracker

namespace SupplyDrop.Proof.SendAccounts
open Library Mesh

/-! ## What becomes of a send -/

inductive TrackerOp where
  | record (destination : Prefix) (text : String) (txtType attempt : Nat) (now : Instant)
  | onSent (crc : Crc) (timeoutMs : Nat) (now : Instant)
  | onConfirmed (crc : Crc)
  | collectDue (now : Instant)

/-- A tracker with all that was given to it and all that it gave back. -/
structure Account where
  tracker : SendTracker
  recorded : List PendingSend
  confirmed : List PendingSend
  failed : List PendingSend
  retried : List PendingSend
  gaveUp : List PendingSend

def Account.opened (cfg : RetryConfig) : Account := ⟨.new cfg, [], [], [], [], []⟩

/-- The record a `Sent` outcome hands back. -/
def failedSend : SentOutcome → List PendingSend
  | .failed rec => [rec]
  | _ => []

def Account.next (a : Account) : TrackerOp → Account
  | .record destination text txtType attempt now =>
      { a with
        tracker := a.tracker.record a.recorded.length destination text txtType attempt now
        recorded := a.recorded ++
          [⟨a.recorded.length, destination, text, txtType, attempt, now, now⟩] }
  | .onSent crc timeoutMs now =>
      { a with
        tracker := (a.tracker.onSent crc timeoutMs now).2
        failed := a.failed ++ failedSend (a.tracker.onSent crc timeoutMs now).1 }
  | .onConfirmed crc =>
      { a with
        tracker := (a.tracker.onConfirmed crc).2
        confirmed := a.confirmed ++ (a.tracker.onConfirmed crc).1.toList }
  | .collectDue now =>
      { a with
        tracker := (a.tracker.collectDue now).2
        retried := a.retried ++ (a.tracker.collectDue now).1.toRetry
        gaveUp := a.gaveUp ++ (a.tracker.collectDue now).1.gaveUp }

def step (op : TrackerOp) (a b : Account) : Prop := b = a.next op

/-- The ack code of a `Sent` response is not one that still awaits its ACK. -/
def Allowed : TrackerOp → Account → Prop
  | .onSent crc _ _, a => crc ∉ a.tracker.awaitingAck.map (·.1)
  | _, _ => True

instance (a : Account) : (op : TrackerOp) → Decidable (Allowed op a)
  | .onSent crc _ _ => inferInstanceAs (Decidable (crc ∉ a.tracker.awaitingAck.map (·.1)))
  | .record .. => isTrue trivial
  | .onConfirmed _ => isTrue trivial
  | .collectDue _ => isTrue trivial

inductive Place where
  | awaitingSent
  | awaitingAck
  | confirmed
  | failed
  | retried
  | gaveUp
deriving DecidableEq

def Account.holding (a : Account) : Place → List PendingSend
  | .awaitingSent => a.tracker.awaitingSent
  | .awaitingAck => a.tracker.awaitingAck.map (·.2)
  | .confirmed => a.confirmed
  | .failed => a.failed
  | .retried => a.retried
  | .gaveUp => a.gaveUp

/-- How often a place holds the send. -/
def Account.count (a : Account) (id : Nat) (place : Place) : Nat :=
  ((a.holding place).map (·.id)).count id

/-! ## The invariant -/

/-- Every send there is, wherever it is. -/
def Account.everything (a : Account) : List PendingSend :=
  a.holding .awaitingSent ++ a.holding .awaitingAck ++ a.holding .confirmed ++ a.holding .failed ++
    a.holding .retried ++ a.holding .gaveUp

/-- The record, but for the deadline, is the one that was made when the send was recorded. -/
def Own (a : Account) (rec : PendingSend) : Prop :=
  ∃ original, a.recorded[rec.id]? = some original ∧ rec = { original with deadline := rec.deadline }

structure Balanced (a : Account) : Prop where
  conserved : (a.everything.map (·.id)).Perm (List.range a.recorded.length)
  codes : (a.tracker.awaitingAck.map (·.1)).Nodup
  own : ∀ rec ∈ a.everything, Own a rec
  retried : ∀ rec ∈ a.retried, rec.attempt < a.tracker.cfg.maxAttempts
  gaveUp : ∀ rec ∈ a.gaveUp, a.tracker.cfg.maxAttempts ≤ rec.attempt

section Steps
variable {a : Account}

@[simp] theorem cfg_next (a : Account) (op : TrackerOp) :
    (a.next op).tracker.cfg = a.tracker.cfg := by
  cases op with
  | onSent crc timeoutMs now =>
      simp only [Account.next, SendTracker.onSent]
      split
      · rfl
      · split <;> rfl
  | _ => rfl

theorem Own.extend {rec new : PendingSend} (h : Own a rec) :
    Own { a with recorded := a.recorded ++ [new] } rec := by
  obtain ⟨original, found, same⟩ := h
  exact ⟨original, (List.getElem?_append_left (List.getElem?_eq_some_iff.mp found).1).trans found, same⟩

theorem balanced_record (h : Balanced a) (destination : Prefix) (text : String)
    (txtType attempt : Nat) (now : Instant) :
    Balanced (a.next (.record destination text txtType attempt now)) where
  conserved := by
    apply (List.perm_iff_count.mpr _)
    intro id
    have before := h.conserved.count_eq id
    simp only [Account.everything, Account.holding, Account.next, SendTracker.record, List.map_append,
      List.count_append, List.length_append, List.range_succ, List.length_cons, List.length_nil,
      List.map_cons, List.map_nil] at before ⊢
    omega
  codes := h.codes
  own := by
    intro rec mem
    have either : rec ∈ a.everything ∨
        rec = ⟨a.recorded.length, destination, text, txtType, attempt, now, now⟩ := by
      simp [Account.everything, Account.holding, Account.next, SendTracker.record] at mem ⊢
      tauto
    rcases either with old | rfl
    · exact (h.own rec old).extend
    · exact ⟨_, List.getElem?_concat_length, rfl⟩
  retried := h.retried
  gaveUp := h.gaveUp

/-- A step that only moves sends from place to place. -/
theorem balanced_moved (h : Balanced a) {b : Account} (recorded : b.recorded = a.recorded)
    (moved : (b.everything.map (·.id)).Perm (a.everything.map (·.id)))
    (own : ∀ rec ∈ b.everything, ∃ old ∈ a.everything, rec = { old with deadline := rec.deadline })
    (codes : (b.tracker.awaitingAck.map (·.1)).Nodup)
    (retried : ∀ rec ∈ b.retried, rec.attempt < b.tracker.cfg.maxAttempts)
    (gaveUp : ∀ rec ∈ b.gaveUp, b.tracker.cfg.maxAttempts ≤ rec.attempt) : Balanced b where
  conserved := by
    rw [recorded]
    exact moved.trans h.conserved
  codes := codes
  own := by
    intro rec mem
    obtain ⟨old, before, same⟩ := own rec mem
    obtain ⟨original, found, made⟩ := h.own old before
    refine ⟨original, ?_, ?_⟩
    · rw [recorded, ← found, same]
    · rw [same, made]
  retried := retried
  gaveUp := gaveUp

theorem find_append_filter {acks : List (Crc × PendingSend)} (codes : (acks.map (·.1)).Nodup)
    (crc : Crc) :
    ((acks.find? (·.1 = crc)).toList ++ acks.filter (·.1 ≠ crc)).Perm acks := by
  induction acks with
  | nil => simp
  | cons ack rest ih =>
      obtain ⟨fresh, codes⟩ := List.nodup_cons.mp codes
      by_cases own : ack.1 = crc
      · have others : rest.filter (·.1 ≠ crc) = rest := by
          rw [List.filter_eq_self]
          intro other mem
          simp only [ne_eq, decide_not, Bool.not_eq_true', decide_eq_false_iff_not]
          rintro same
          exact fresh (List.mem_map.mpr ⟨other, mem, same.trans own.symm⟩)
        rw [List.find?_cons_of_pos (by simpa using own), List.filter_cons_of_neg (by simpa using own),
          others]
        exact .refl _
      · rw [List.find?_cons_of_neg (by simpa using own), List.filter_cons_of_pos (by simpa using own)]
        exact List.perm_middle.trans ((ih codes).cons ack)

theorem balanced_onConfirmed (h : Balanced a) (crc : Crc) :
    Balanced (a.next (.onConfirmed crc)) := by
  have split := (find_append_filter h.codes crc).map (·.2)
  rw [List.map_append] at split
  have perm : (a.next (.onConfirmed crc)).everything.Perm a.everything := by
    apply List.perm_iff_count.mpr
    intro rec
    have counted := split.count_eq rec
    have found : ((a.tracker.awaitingAck.find? (·.1 = crc)).map (·.2)).toList =
        (a.tracker.awaitingAck.find? (·.1 = crc)).toList.map (·.2) := by
      cases a.tracker.awaitingAck.find? (·.1 = crc) <;> rfl
    simp only [Account.everything, Account.holding, Account.next, SendTracker.onConfirmed, found,
      List.count_append] at counted ⊢
    omega
  refine balanced_moved (b := a.next (.onConfirmed crc)) h rfl (perm.map _) ?_ ?_ h.retried h.gaveUp
  · intro rec mem
    exact ⟨rec, perm.subset mem, rfl⟩
  · exact h.codes.sublist (List.filter_sublist.map _)

theorem balanced_collectDue (h : Balanced a) (now : Instant) :
    Balanced (a.next (.collectDue now)) := by
  have split := (List.filter_append_perm (fun r : Crc × PendingSend => r.2.deadline ≤ now)
    a.tracker.awaitingAck).map (·.2)
  have split' := List.filter_append_perm (fun r : PendingSend => r.attempt < a.tracker.cfg.maxAttempts)
    (a.tracker.due now)
  have perm : (a.next (.collectDue now)).everything.Perm a.everything := by
    apply List.perm_iff_count.mpr
    intro rec
    have counted := split.count_eq rec
    have counted' := split'.count_eq rec
    simp only [Account.everything, Account.holding, Account.next, SendTracker.collectDue,
      SendTracker.due, List.map_append, List.count_append, decide_not] at counted counted' ⊢
    omega
  refine balanced_moved (b := a.next (.collectDue now)) h rfl (perm.map _) ?_ ?_ ?_ ?_
  · intro rec mem
    exact ⟨rec, perm.subset mem, rfl⟩
  · exact h.codes.sublist (List.filter_sublist.map _)
  · intro rec mem
    rw [cfg_next]
    rcases List.mem_append.mp mem with old | new
    · exact h.retried rec old
    · simpa using (List.mem_filter.mp new).2
  · intro rec mem
    rw [cfg_next]
    rcases List.mem_append.mp mem with old | new
    · exact h.gaveUp rec old
    · simpa using (List.mem_filter.mp new).2

theorem balanced_onSent (h : Balanced a) (crc : Crc) (timeoutMs : Nat) (now : Instant)
    (allowed : crc ∉ a.tracker.awaitingAck.map (·.1)) :
    Balanced (a.next (.onSent crc timeoutMs now)) := by
  cases queue : a.tracker.awaitingSent with
  | nil =>
      have same : a.next (.onSent crc timeoutMs now) = a := by
        simp [Account.next, SendTracker.onSent, queue, failedSend]
      rwa [same]
  | cons rec rest =>
      by_cases refused : crc = 0
      · have after : a.next (.onSent crc timeoutMs now) =
            { a with
              tracker := { a.tracker with awaitingSent := rest }
              failed := a.failed ++ [rec] } := by
          simp [Account.next, SendTracker.onSent, queue, refused, failedSend]
        rw [after]
        have perm : (Account.everything { a with
            tracker := { a.tracker with awaitingSent := rest }
            failed := a.failed ++ [rec] }).Perm a.everything := by
          apply List.perm_iff_count.mpr
          intro other
          simp only [Account.everything, Account.holding, queue, List.count_append, List.count_cons,
            List.count_nil]
          omega
        refine balanced_moved h rfl (perm.map _) ?_ h.codes h.retried h.gaveUp
        intro rec mem
        exact ⟨rec, perm.subset mem, rfl⟩
      · have kept : a.tracker.awaitingAck.filter (·.1 ≠ crc) = a.tracker.awaitingAck := by
          rw [List.filter_eq_self]
          intro other mem
          simp only [ne_eq, decide_not, Bool.not_eq_true', decide_eq_false_iff_not]
          rintro same
          exact allowed (List.mem_map.mpr ⟨other, mem, same⟩)
        let waiting := { rec with deadline := now + a.tracker.cfg.ackWait timeoutMs }
        have after : a.next (.onSent crc timeoutMs now) =
            { a with tracker := { a.tracker with
                awaitingSent := rest
                awaitingAck := a.tracker.awaitingAck ++ [(crc, waiting)] } } := by
          simp only [Account.next, SendTracker.onSent, queue, refused, failedSend, SendTracker.putAck,
            kept, if_false, List.append_nil, waiting]
        rw [after]
        refine balanced_moved h rfl ?_ ?_ ?_ h.retried h.gaveUp
        · apply List.perm_iff_count.mpr
          intro id
          simp only [Account.everything, Account.holding, queue, List.map_append, List.map_cons,
            List.map_nil, List.count_append, List.count_cons, List.count_nil, waiting]
          omega
        · intro other mem
          have either : other ∈ a.everything ∨ other = waiting := by
            simp [Account.everything, Account.holding, queue] at mem ⊢
            tauto
          rcases either with old | rfl
          · exact ⟨other, old, rfl⟩
          · exact ⟨rec, by simp [Account.everything, Account.holding, queue], rfl⟩
        · rw [List.map_append]
          exact List.Nodup.append h.codes (List.nodup_singleton crc) (by simpa using allowed)

end Steps

theorem balanced_next {a : Account} (h : Balanced a) (op : TrackerOp) (allowed : Allowed op a) :
    Balanced (a.next op) := by
  cases op with
  | record destination text txtType attempt now => exact balanced_record h _ _ _ _ _
  | onSent crc timeoutMs now => exact balanced_onSent h crc timeoutMs now allowed
  | onConfirmed crc => exact balanced_onConfirmed h crc
  | collectDue now => exact balanced_collectDue h now

theorem balanced_run {cfg : RetryConfig} {a : Account}
    (run : Reaches step Allowed (.opened cfg) a) : Balanced a ∧ a.tracker.cfg = cfg := by
  apply run.invariant
  · refine ⟨?_, rfl⟩
    constructor <;> simp [Account.opened, Account.everything, Account.holding, SendTracker.new]
  · rintro op a _ ⟨balanced, same⟩ allowed rfl
    exact ⟨balanced_next balanced op allowed, (cfg_next a op).trans same⟩

/-! ## Every send is in one place -/

theorem count_total {a : Account} (h : Balanced a) {id : Nat} (made : id < a.recorded.length) :
    a.count id .awaitingSent + a.count id .awaitingAck + a.count id .confirmed + a.count id .failed +
      a.count id .retried + a.count id .gaveUp = 1 := by
  have counted := h.conserved.count_eq id
  have one : (List.range a.recorded.length).count id = 1 :=
    List.count_eq_one_of_mem List.nodup_range (List.mem_range.mpr made)
  rw [one] at counted
  simpa only [Account.everything, Account.count, List.map_append, List.count_append] using counted

/-- At every point of every run, each send that was recorded is in one place, once, as it was
recorded, no place holds anything else, and what is handed back has attempts left, unlike what is
given up. -/
theorem sends_accounted_for {cfg : RetryConfig} {a : Account}
    (run : Reaches step Allowed (.opened cfg) a) :
    (∀ id < a.recorded.length, ∃ place, a.count id place = 1 ∧
      ∀ other, other ≠ place → a.count id other = 0) ∧
    (∀ place, ∀ rec ∈ a.holding place, Own a rec) ∧
    (∀ rec ∈ a.retried, rec.attempt < cfg.maxAttempts) ∧
    (∀ rec ∈ a.gaveUp, cfg.maxAttempts ≤ rec.attempt) := by
  obtain ⟨balanced, rfl⟩ := balanced_run run
  refine ⟨fun id made => ?_, fun place rec mem => ?_, balanced.retried, balanced.gaveUp⟩
  · have total := count_total balanced made
    have here : ∃ place, 0 < a.count id place := by
      by_contra nowhere
      push Not at nowhere
      have := nowhere .awaitingSent
      have := nowhere .awaitingAck
      have := nowhere .confirmed
      have := nowhere .failed
      have := nowhere .retried
      have := nowhere .gaveUp
      omega
    obtain ⟨place, some_⟩ := here
    refine ⟨place, ?_, fun other apart => ?_⟩
    · cases place <;> omega
    · cases place <;> cases other <;> first | exact (apart rfl).elim | omega
  · apply balanced.own
    cases place <;> simp [Account.everything, mem]

def twoTries : RetryConfig := ⟨2, 0, 1000000⟩

/-- Accepted, never acknowledged, handed back, sent again and given up. -/
def neverHeard : List TrackerOp :=
  [.record 7 "hi" 0 1 0, .onSent 5 1 0, .collectDue 2000000, .record 7 "hi" 0 2 2000000,
    .onSent 6 1 2000000, .collectDue 4000000]

theorem sends_accounted_for_neverHeard :
    let a := neverHeard.foldl Account.next (.opened twoTries)
    (∀ id < 2, ∃ place, a.count id place = 1 ∧ ∀ other, other ≠ place → a.count id other = 0) ∧
      ∀ rec ∈ a.retried, rec.attempt < 2 := by
  have follows : Reaches.Follows Account.next Allowed neverHeard (.opened twoTries) := by
    decide +kernel
  have accounted := sends_accounted_for (Reaches.follow follows)
  exact ⟨accounted.1, accounted.2.2.1⟩

end SupplyDrop.Proof.SendAccounts
