import Mathlib
import SupplyDrop.Library.Run
import SupplyDrop.Mesh.Contacts
import SupplyDrop.Proof.AdvertCap

namespace SupplyDrop.Proof.ContactRemoval
open Library Plugin Plugin.AdvertBus Mesh.Contacts Mesh.Contacts.Tasks AdvertCap

/-! ## What the log is to say -/

/-- A removal that is queued after the frame that protects the contact finds that the bus has not
protected it all the time in between. -/
def NeverUndone (log : List Happening) : Prop :=
  ∀ before between later pubkey cause,
    log = before ++ .protectQueued pubkey :: (between ++ .removalQueued pubkey cause :: later) →
      ∃ bus clock, .was bus clock ∈ between ∧ bus.isCurrentlyFavourited pubkey clock = false

/-- No eviction removes a node that had a session when it began. -/
def SparesSessions (log : List Happening) : Prop :=
  ∀ pubkey cause, .removalQueued pubkey cause ∈ log → prefix6 pubkey ∉ cause.sessions

/-- The frame that protects the contact is queued, and the bus has protected it ever since. -/
def HeldSince (pubkey : AdvertKey) (log : List Happening) : Prop :=
  ∃ before between, log = before ++ .protectQueued pubkey :: between ∧
    ∀ bus clock, .was bus clock ∈ between → bus.isCurrentlyFavourited pubkey clock = true

section Log
variable {log : List Happening} {pubkey : AdvertKey} {happening : Happening}

theorem heldSince_snoc : HeldSince pubkey (log ++ [happening]) ↔
    happening = .protectQueued pubkey ∨ HeldSince pubkey log ∧
      ∀ bus clock, happening = .was bus clock → bus.isCurrentlyFavourited pubkey clock = true := by
  constructor
  · rintro ⟨before, between, split, held⟩
    rcases split_last split with ⟨-, last, -⟩ | ⟨between', rfl, earlier⟩
    · exact .inl last.symm
    · refine .inr ⟨⟨before, between', earlier, fun bus clock mem => ?_⟩, ?_⟩
      · exact held bus clock (List.mem_append_left _ mem)
      · rintro bus clock rfl
        exact held bus clock (by simp)
  · rintro (rfl | ⟨⟨before, between, rfl, held⟩, last⟩)
    · exact ⟨log, [], rfl, by simp⟩
    · refine ⟨before, between ++ [happening], by simp, fun bus clock mem => ?_⟩
      rcases List.mem_append.mp mem with earlier | same
      · exact held bus clock earlier
      · exact last bus clock (List.mem_singleton.mp same).symm

theorem neverUndone_snoc (never : NeverUndone log)
    (fresh : ∀ pubkey cause, happening = .removalQueued pubkey cause → ¬HeldSince pubkey log) :
    NeverUndone (log ++ [happening]) := by
  intro before between later pubkey cause split
  rw [← List.cons_append, ← List.append_assoc] at split
  rcases split_last split with ⟨rfl, last, -⟩ | ⟨later', rfl, rfl⟩
  · by_contra held
    push Not at held
    refine fresh pubkey cause last.symm ⟨before, between, rfl, fun bus clock mem => ?_⟩
    simpa using held bus clock mem
  · exact never before between later' pubkey cause (by simp)

/-- What the log so far comes to. -/
def holds (pubkey : AdvertKey) (held : Bool) : Happening → Bool
  | .protectQueued other => held || other = pubkey
  | .removalQueued _ _ => held
  | .was bus clock => held && bus.isCurrentlyFavourited pubkey clock

theorem heldSince_iff (pubkey : AdvertKey) (log : List Happening) :
    HeldSince pubkey log ↔ log.foldl (holds pubkey) false = true := by
  induction log using List.reverseRecOn with
  | nil =>
      refine ⟨?_, fun wrong => nomatch wrong⟩
      rintro ⟨before, between, split, -⟩
      cases before <;> cases split
  | append_singleton log happening ih =>
      rw [heldSince_snoc, ih, List.foldl_append]
      cases happening with
      | protectQueued other => simp [holds, or_comm]
      | removalQueued other cause => simp [holds]
      | was bus clock => simp [holds]

def isRemoval (pubkey : AdvertKey) : Happening → Bool
  | .removalQueued other _ => other = pubkey
  | _ => false

theorem NeverUndone.not_held (never : NeverUndone log) {n : Nat}
    (removal : (log[n]?).any (isRemoval pubkey) = true) : ¬HeldSince pubkey (log.take n) := by
  obtain ⟨happening, here, removes⟩ := (Option.any_eq_true _ _).mp removal
  obtain ⟨within, same⟩ := List.getElem?_eq_some_iff.mp here
  cases happening with
  | protectQueued _ => cases removes
  | was _ _ => cases removes
  | removalQueued other cause =>
      have name : other = pubkey := of_decide_eq_true removes
      subst name
      rintro ⟨before, between, split, held⟩
      have whole : log = before ++ .protectQueued other ::
          (between ++ .removalQueued other cause :: log.drop (n + 1)) := by
        rw [← List.cons_append, ← List.append_assoc, ← split, ← same, List.cons_getElem_drop_succ,
          List.take_append_drop]
      obtain ⟨bus, clock, mem, lapsed⟩ := never _ _ _ _ _ whole
      rw [held bus clock mem] at lapsed
      cases lapsed

end Log

/-! ## The window between the re-check and the removal -/

/-- The frame is to protect the contact that the event loop has re-checked and is about to
remove. -/
def Overlaps : ProtectStage → EventLoopStage → Prop
  | .sending snapshot _, .removing pubkey _ => snapshot.pubkey = pubkey
  | _, _ => False

instance : ∀ stage loop, Decidable (Overlaps stage loop)
  | .sending snapshot _, .removing pubkey _ =>
      inferInstanceAs (Decidable (snapshot.pubkey = pubkey))
  | .idle, _ | .marking _ _ _, _ | .reverting _ _, _ => isFalse fun h => nomatch h
  | .sending _ _, .idle | .sending _ _, .selecting _ _ | .sending _ _, .checking _ _
  | .sending _ _, .protecting _ => isFalse id

/-- The command worker queues it. -/
def SlipsIn : Event → Tasks → Prop
  | .workerProceeds _, t =>
      Overlaps t.commandWorker t.eventLoop ∧ t.outbound.length < commandCapacity
  | _, _ => False

instance (event : Event) (t : Tasks) : Decidable (SlipsIn event t) :=
  match event with
  | .workerProceeds _ => inferInstanceAs (Decidable (_ ∧ _))
  | .clockReads _ | .elsewhere _ | .sessionOpens _ | .sessionCloses _ | .selfKnown _ | .transmit
  | .command | .contactsFull | .takeRequest | .loopProtects _ | .loopProceeds _
  | .workerProtects _ | .sysopDeletes _ | .callSends _ | .callFails _ => isFalse id

/-- What the event loop is about to remove is not held. -/
structure Sound (t : Tasks) : Prop where
  guarded : ∀ pubkey cause, t.eventLoop = .removing pubkey cause → ¬HeldSince pubkey t.log
  never : NeverUndone t.log

section Steps
variable {t t' : Tasks} {pubkey : AdvertKey} {cause : Cause}

theorem Sound.quiet (sound : Sound t) (log : t'.log = t.log)
    (loop : ∀ pubkey cause, t'.eventLoop = .removing pubkey cause →
      t.eventLoop = .removing pubkey cause ∨
        t'.bus.isCurrentlyFavourited pubkey t'.clock = false) : Sound t'.observed where
  guarded pubkey cause at_ := by
    show ¬HeldSince pubkey (t'.log ++ [_])
    rw [log, heldSince_snoc]
    rintro (wrong | ⟨held, last⟩)
    · cases wrong
    · rcases loop pubkey cause at_ with same | lapsed
      · exact sound.guarded pubkey cause same held
      · rw [last _ _ rfl] at lapsed
        cases lapsed
  never := by
    show NeverUndone (t'.log ++ [_])
    rw [log]
    exact neverUndone_snoc sound.never fun _ _ wrong => nomatch wrong

theorem Sound.protects (sound : Sound t) (log : t'.log = t.log ++ [.protectQueued pubkey])
    (loop : ∀ other cause, t'.eventLoop = .removing other cause →
      t.eventLoop = .removing other cause ∧ pubkey ≠ other) : Sound t'.observed where
  guarded other cause at_ := by
    obtain ⟨same, apart⟩ := loop other cause at_
    show ¬HeldSince other (t'.log ++ [_])
    rw [log, heldSince_snoc, heldSince_snoc]
    rintro (wrong | ⟨fresh | ⟨held, -⟩, -⟩)
    · cases wrong
    · injection fresh with fresh
      exact apart fresh
    · exact sound.guarded other cause same held
  never := by
    show NeverUndone (t'.log ++ [_])
    rw [log]
    refine neverUndone_snoc (neverUndone_snoc sound.never ?_) ?_
    · exact fun _ _ wrong => nomatch wrong
    · exact fun _ _ wrong => nomatch wrong

theorem Sound.removes (sound : Sound t) (at_ : t.eventLoop = .removing pubkey cause)
    (log : t'.log = t.log ++ [.removalQueued pubkey cause])
    (loop : ∀ other cause, t'.eventLoop ≠ .removing other cause) : Sound t'.observed where
  guarded other cause here := absurd here (loop other cause)
  never := by
    show NeverUndone (t'.log ++ [_])
    rw [log]
    refine neverUndone_snoc (neverUndone_snoc sound.never ?_) ?_
    · rintro other cause' same
      cases same
      exact sound.guarded pubkey cause at_
    · exact fun _ _ wrong => nomatch wrong

theorem trySend_some {frame : OutboundFrame} {happening : List Happening}
    (sent : t.trySend frame happening = some t') :
    t.outbound.length < commandCapacity ∧
      t' = { t with outbound := t.outbound ++ [frame], log := t.log ++ happening } := by
  unfold trySend at sent
  split at sent
  · next room =>
    cases sent
    exact ⟨room, rfl⟩
  · cases sent

/-- A step of a protect, whoever takes it. -/
inductive Proceeds (t : Tasks) (stage : ProtectStage) : ProtectStage → Tasks → Prop where
  | stays (stage' : ProtectStage) (bus : AdvertBus) : Proceeds t stage stage' { t with bus }
  | sends {snapshot : FavouriteSnapshot} {evicted : Option (AdvertKey × Cause)}
      (at_ : stage = .sending snapshot evicted) (room : t.outbound.length < commandCapacity) :
      Proceeds t stage .idle { t with
        outbound := t.outbound ++ [protectFrameFor snapshot]
        log := t.log ++ [.protectQueued snapshot.pubkey]
        calls := t.calls ++ evicted.toList }

theorem proceedProtect_proceeds (hash : RecordOrder) (t : Tasks) (stage : ProtectStage) :
    ∃ stage' t', t.proceedProtect hash stage = (stage', t') ∧ Proceeds t stage stage' t' := by
  cases stage with
  | idle => exact ⟨_, _, rfl, .stays _ t.bus⟩
  | marking pubkey exclude sessions =>
      unfold proceedProtect
      dsimp only
      split
      · exact ⟨_, _, rfl, .stays _ _⟩
      · exact ⟨_, _, rfl, .stays _ _⟩
      · exact ⟨_, _, rfl, .stays _ _⟩
      · exact ⟨_, _, rfl, .stays _ t.bus⟩
  | sending snapshot evicted =>
      unfold proceedProtect
      dsimp only
      split
      · next sent =>
        obtain ⟨room, rfl⟩ := trySend_some sent
        exact ⟨_, _, rfl, .sends rfl room⟩
      · exact ⟨_, _, rfl, .stays _ t.bus⟩
  | reverting pubkey generation => exact ⟨_, _, rfl, .stays _ _⟩

theorem sound_loop (hash : RecordOrder) (sound : Sound t) :
    Sound (t.proceedLoop hash).observed := by
  unfold proceedLoop
  split
  · exact sound.quiet rfl fun _ _ same => .inl same
  · split
    · exact sound.quiet rfl fun _ _ wrong => nomatch wrong
    · exact sound.quiet rfl fun _ _ wrong => nomatch wrong
  · split
    · exact sound.quiet rfl fun _ _ wrong => nomatch wrong
    · next lapsed =>
      refine sound.quiet rfl fun pubkey cause same => .inr ?_
      cases same
      simpa using lapsed
  · next pubkey cause at_ =>
    cases sent : t.trySend (.removeContact pubkey) [.removalQueued pubkey cause] with
    | none => exact sound.quiet rfl fun _ _ wrong => nomatch wrong
    | some t' =>
        obtain ⟨-, rfl⟩ := trySend_some sent
        exact sound.removes at_ rfl fun _ _ wrong => nomatch wrong
  · next stage at_ =>
    obtain ⟨stage', t', ran, proceeds⟩ := proceedProtect_proceeds hash t stage
    have done (t'' : Tasks) (log : t''.log = t'.log)
        (away : ∀ pubkey cause, t''.eventLoop ≠ .removing pubkey cause) : Sound t''.observed := by
      cases proceeds with
      | stays _ bus => exact sound.quiet log fun _ _ at_ => absurd at_ (away _ _)
      | sends _ _ => exact sound.protects log fun _ _ at_ => absurd at_ (away _ _)
    rw [ran]
    cases stage' with
    | idle => exact done _ rfl fun _ _ wrong => nomatch wrong
    | marking _ _ _ => exact done _ rfl fun _ _ wrong => nomatch wrong
    | sending _ _ => exact done _ rfl fun _ _ wrong => nomatch wrong
    | reverting _ _ => exact done _ rfl fun _ _ wrong => nomatch wrong

theorem sound_worker (hash : RecordOrder) (sound : Sound t)
    (right : ¬SlipsIn (.workerProceeds hash) t) : Sound (t.proceedWorker hash).observed := by
  obtain ⟨stage', t', ran, proceeds⟩ := proceedProtect_proceeds hash t t.commandWorker
  unfold proceedWorker
  rw [ran]
  cases proceeds with
  | stays _ bus => exact sound.quiet rfl fun _ _ same => .inl same
  | @sends snapshot evicted at_ room =>
      refine sound.protects rfl fun pubkey cause removing => ⟨removing, ?_⟩
      rintro rfl
      apply right
      show Overlaps t.commandWorker t.eventLoop ∧ _
      rw [at_, show t.eventLoop = .removing _ cause from removing]
      exact ⟨rfl, room⟩

theorem next_sound (event : Event) (sound : Sound t) (right : ¬SlipsIn event t) :
    Sound (t.next event) := by
  have kept {t' : Tasks} (log : t'.log = t.log) (loop : t'.eventLoop = t.eventLoop) :
      Sound t'.observed := sound.quiet log fun _ _ same => .inl (loop ▸ same)
  have idle {t' : Tasks} (log : t'.log = t.log)
      (away : ∀ pubkey cause, t'.eventLoop ≠ .removing pubkey cause) : Sound t'.observed :=
    sound.quiet log fun _ _ at_ => absurd at_ (away _ _)
  unfold next
  cases event with
  | clockReads now => exact kept rfl rfl
  | elsewhere op => exact kept rfl rfl
  | sessionOpens node => exact kept rfl rfl
  | sessionCloses node => exact kept rfl rfl
  | selfKnown pubkey => exact kept rfl rfl
  | transmit => exact kept rfl rfl
  | command =>
      unfold advance
      cases sent : t.trySend .command [] with
      | none => exact kept rfl rfl
      | some t' =>
          obtain ⟨-, rfl⟩ := trySend_some sent
          exact kept (List.append_nil _) rfl
  | contactsFull =>
      unfold advance
      dsimp only
      split
      · exact idle rfl fun _ _ wrong => nomatch wrong
      · exact kept rfl rfl
  | takeRequest =>
      unfold advance
      dsimp only
      split
      · exact idle rfl fun _ _ wrong => nomatch wrong
      · exact kept rfl rfl
  | loopProtects pubkey =>
      unfold advance
      dsimp only
      split
      · exact idle rfl fun _ _ wrong => nomatch wrong
      · exact kept rfl rfl
  | loopProceeds hash => exact sound_loop hash sound
  | workerProtects pubkey =>
      unfold advance
      dsimp only
      split
      · exact kept rfl rfl
      · exact kept rfl rfl
  | workerProceeds hash => exact sound_worker hash sound right
  | sysopDeletes pubkey =>
      unfold advance deleteContact
      dsimp only
      split
      · exact kept rfl rfl
      · split
        · exact kept rfl rfl
        · exact kept rfl rfl
  | callSends n =>
      unfold advance
      dsimp only
      split
      · split
        · exact kept rfl rfl
        · exact kept rfl rfl
      · exact kept rfl rfl
  | callFails n => exact kept rfl rfl

end Steps

/-! ## Who is spared -/

/-- The node had no session when the removal was decided on. -/
def Spared (call : AdvertKey × Cause) : Prop := prefix6 call.1 ∉ call.2.sessions

def ProtectSpares : ProtectStage → Prop
  | .marking _ exclude sessions => sessions ⊆ exclude
  | .sending _ evicted => ∀ call ∈ evicted, Spared call
  | _ => True

def LoopSpares : EventLoopStage → Prop
  | .idle => True
  | .selecting exclude sessions => sessions ⊆ exclude
  | .checking pubkey cause | .removing pubkey cause => Spared (pubkey, cause)
  | .protecting stage => ProtectSpares stage

structure Spares (t : Tasks) : Prop where
  eventLoop : LoopSpares t.eventLoop
  commandWorker : ProtectSpares t.commandWorker
  calls : ∀ call ∈ t.calls, Spared call
  requests : ∀ call ∈ t.requests, Spared call
  log : SparesSessions t.log

section Spares
variable {t t' : Tasks} {log : List Happening} {happening : Happening}

theorem exclusion_sessions (t : Tasks) : t.byPrefix ⊆ t.exclusion := by
  unfold exclusion
  split
  · split
    · exact List.Subset.refl _
    · exact List.subset_append_left _ _
  · exact List.Subset.refl _

theorem sparesSessions_snoc (spares : SparesSessions log)
    (fresh : ∀ pubkey cause, happening = .removalQueued pubkey cause → Spared (pubkey, cause)) :
    SparesSessions (log ++ [happening]) := by
  intro pubkey cause mem
  rcases List.mem_append.mp mem with earlier | last
  · exact spares pubkey cause earlier
  · exact fresh pubkey cause (List.mem_singleton.mp last).symm

theorem Spares.observe (spares : Spares t) : Spares t.observed :=
  { spares with log := sparesSessions_snoc spares.log fun _ _ wrong => nomatch wrong }

theorem stalest_excluded {bus : AdvertBus} {exclude : List Prefix} {transport : String}
    {hash : RecordOrder} {now : Nat} {pubkey : AdvertKey}
    (stalest : bus.stalestPubkeyExcluding exclude transport hash now = some pubkey) :
    prefix6 pubkey ∉ exclude := by
  unfold stalestPubkeyExcluding at stalest
  obtain ⟨e, least, rfl⟩ := Option.map_eq_some_iff.mp stalest
  have mem := (List.mem_filter.mp (List.minOn?_mem least)).2
  simp only [Bool.and_eq_true, Bool.not_eq_true', List.contains_eq_mem,
    decide_eq_false_iff_not] at mem
  exact mem.1.2

theorem victim_excluded {bus bus' : AdvertBus} {pubkey victim : AdvertKey}
    {isEligible : BitVec 8 → Option Bool} {protectedCap : Nat} {exclude : List Prefix}
    {hash : RecordOrder} {now : Nat} {snapshot : FavouriteSnapshot} {before : AdvertRecord}
    (marked : bus.markFavouriteIfEligible pubkey isEligible protectedCap exclude hash now =
      some (.protectedWithEviction snapshot victim before, bus')) : prefix6 victim ∉ exclude := by
  obtain ⟨outcome, bus'', decided, decision⟩ :=
    decideFavourite_decides bus pubkey isEligible protectedCap exclude hash now
  unfold markFavouriteIfEligible at marked
  cases marked.symm.trans decided
  cases decision with
  | evict _ _ _ oldest => exact oldest.1.idle

theorem proceedProtect_spares (hash : RecordOrder) (spares : Spares t) {stage : ProtectStage}
    (own : ProtectSpares stage) : ∃ stage' t', t.proceedProtect hash stage = (stage', t') ∧
      ProtectSpares stage' ∧ Spares t' := by
  cases stage with
  | idle => exact ⟨_, _, rfl, trivial, spares⟩
  | marking pubkey exclude sessions =>
      unfold proceedProtect
      dsimp only
      split
      · exact ⟨_, _, rfl, fun _ wrong => (nomatch wrong), { spares with }⟩
      · next snapshot victim before bus marked =>
        refine ⟨_, _, rfl, ?_, { spares with }⟩
        rintro _ ⟨rfl⟩
        exact fun mem => victim_excluded marked (own mem)
      · exact ⟨_, _, rfl, trivial, { spares with }⟩
      · exact ⟨_, _, rfl, trivial, spares⟩
  | sending snapshot evicted =>
      unfold proceedProtect
      dsimp only
      split
      · next sent =>
        obtain ⟨-, rfl⟩ := trySend_some sent
        refine ⟨_, _, rfl, trivial, { spares with calls := ?_, log := ?_ }⟩
        · intro call mem
          rcases List.mem_append.mp mem with earlier | evicted
          · exact spares.calls call earlier
          · exact own call (Option.mem_toList.mp evicted)
        · exact sparesSessions_snoc spares.log fun _ _ wrong => nomatch wrong
      · exact ⟨_, _, rfl, trivial, spares⟩
  | reverting pubkey generation => exact ⟨_, _, rfl, trivial, { spares with }⟩

theorem proceedLoop_spares (hash : RecordOrder) (spares : Spares t) :
    Spares (t.proceedLoop hash) := by
  have own := spares.eventLoop
  unfold proceedLoop
  split
  · exact spares
  · next exclude sessions at_ =>
    rw [at_] at own
    split
    · next stale stalest =>
      exact { spares with eventLoop := fun mem => stalest_excluded stalest (own mem) }
    · exact { spares with eventLoop := trivial }
  · next pubkey cause at_ =>
    rw [at_] at own
    split
    · exact { spares with eventLoop := trivial }
    · exact { spares with eventLoop := own }
  · next pubkey cause at_ =>
    rw [at_] at own
    cases sent : t.trySend (.removeContact pubkey) [.removalQueued pubkey cause] with
    | none => exact { spares with eventLoop := trivial }
    | some t' =>
        obtain ⟨-, rfl⟩ := trySend_some sent
        refine { spares with eventLoop := trivial, log := sparesSessions_snoc spares.log ?_ }
        rintro _ _ ⟨⟩
        exact own
  · next stage at_ =>
    rw [at_] at own
    obtain ⟨stage', t', ran, own', spares'⟩ := proceedProtect_spares hash spares own
    rw [ran]
    cases stage' with
    | idle => exact { spares' with eventLoop := trivial }
    | marking _ _ _ => exact { spares' with eventLoop := own' }
    | sending _ _ => exact { spares' with eventLoop := own' }
    | reverting _ _ => exact { spares' with eventLoop := own' }

theorem next_spares (event : Event) (spares : Spares t) : Spares (t.next event) := by
  apply Spares.observe
  cases event with
  | clockReads now => exact { spares with }
  | elsewhere op => exact { spares with }
  | sessionOpens node => exact { spares with }
  | sessionCloses node => exact { spares with }
  | selfKnown pubkey => exact { spares with }
  | transmit => exact { spares with }
  | command =>
      unfold advance
      cases sent : t.trySend .command [] with
      | none => exact spares
      | some t' =>
          obtain ⟨-, rfl⟩ := trySend_some sent
          exact { spares with log := by simpa using spares.log }
  | contactsFull =>
      unfold advance
      dsimp only
      split
      · exact { spares with eventLoop := exclusion_sessions t }
      · exact spares
  | takeRequest =>
      unfold advance
      dsimp only
      split
      · next pubkey cause rest _ waiting =>
        have own := spares.requests
        rw [waiting] at own
        exact { spares with
          eventLoop := own _ List.mem_cons_self
          requests := fun call mem => own call (List.mem_cons_of_mem _ mem) }
      · exact spares
  | loopProtects pubkey =>
      unfold advance
      dsimp only
      split
      · exact { spares with eventLoop := exclusion_sessions t }
      · exact spares
  | loopProceeds hash => exact proceedLoop_spares hash spares
  | workerProtects pubkey =>
      unfold advance
      dsimp only
      split
      · exact { spares with commandWorker := exclusion_sessions t }
      · exact spares
  | workerProceeds hash =>
      obtain ⟨stage', t', ran, own', spares'⟩ :=
        proceedProtect_spares hash spares spares.commandWorker
      show Spares (t.proceedWorker hash)
      unfold proceedWorker
      rw [ran]
      exact { spares' with commandWorker := own' }
  | sysopDeletes pubkey =>
      unfold advance deleteContact
      dsimp only
      split
      · exact spares
      · split
        · exact { spares with }
        · refine { spares with calls := fun call mem => ?_ }
          rcases List.mem_append.mp mem with earlier | fresh
          · exact spares.calls call earlier
          · rw [List.mem_singleton.mp fresh]
            exact List.not_mem_nil
  | callSends n =>
      unfold advance
      dsimp only
      split
      · next call known =>
        split
        · refine { spares with
            calls := fun other mem => spares.calls other (List.mem_of_mem_eraseIdx mem)
            requests := fun other mem => ?_ }
          rcases List.mem_append.mp mem with earlier | fresh
          · exact spares.requests other earlier
          · rw [List.mem_singleton.mp fresh]
            exact spares.calls call (List.mem_of_getElem? known)
        · exact spares
      · exact spares
  | callFails n =>
      exact { spares with
        calls := fun other mem => spares.calls other (List.mem_of_mem_eraseIdx mem) }

end Spares

/-! ## Whole runs -/

/-- Tasks that have not begun anything, around a bus and sessions of any kind. -/
def Fresh (t : Tasks) : Prop :=
  t.eventLoop = .idle ∧ t.commandWorker = .idle ∧ t.calls = [] ∧ t.requests = [] ∧ t.log = []

theorem Fresh.sound {t : Tasks} (fresh : Fresh t) : Sound t where
  guarded pubkey cause at_ := by
    rw [fresh.1] at at_
    cases at_
  never := by
    obtain ⟨-, -, -, -, empty⟩ := fresh
    rw [empty]
    intro before _ _ _ _ split
    cases before <;> cases split

theorem Fresh.spares {t : Tasks} (fresh : Fresh t) : Spares t := by
  obtain ⟨idle, resting, calls, requests, empty⟩ := fresh
  refine ⟨?_, ?_, ?_, ?_, ?_⟩
  · rw [idle]
    trivial
  · rw [resting]
    trivial
  · rw [calls]
    exact fun _ mem => nomatch mem
  · rw [requests]
    exact fun _ mem => nomatch mem
  · rw [empty]
    exact fun _ _ mem => nomatch mem

/-- A removal undoes a protection only through the window between the re-check and the send, and no
eviction removes a node that had a session when it began. -/
theorem removal_undoes_nothing {start : Tasks} (fresh : Fresh start) :
    (∀ t : Tasks, Reaches step (fun event t => ¬SlipsIn event t) start t → NeverUndone t.log) ∧
    (∀ t : Tasks, Reaches step (fun _ _ => True) start t → SparesSessions t.log) := by
  constructor
  · intro t run
    have sound : Sound t := by
      apply run.invariant
      · exact fresh.sound
      · rintro event t _ sound right rfl
        exact next_sound event sound right
    exact sound.never
  · intro t run
    have spares : Spares t := by
      apply run.invariant
      · exact fresh.spares
      · rintro event t _ spares - rfl
        exact next_spares event spares
    exact spares.log

def adaKey : AdvertKey := 0xada0 <<< 208

def bobKey : AdvertKey := 0xb0b0 <<< 208

/-- A bus that knows two unprotected contacts, of which Bob's has a session. -/
def radioRoom : Tasks where
  bus := ([.upsertContact adaKey "ada" 1 0 0 1700000000 0 1700000000 0 [] (-1) "meshcore",
      .upsertContact bobKey "bob" 1 0 0 1600000000 0 1600000000 0 [] (-1) "meshcore"] :
    List Op).foldl (fun bus op => (bus.run (op, 1800000000)).getD bus) .new
  clock := 1800000000
  byPrefix := [prefix6 bobKey]
  selfPubkey := none
  protectedContactCap := 1
  outbound := []
  eventLoop := .idle
  commandWorker := .idle
  calls := []
  requests := []
  log := []

theorem radioRoom_fresh : Fresh radioRoom := ⟨rfl, rfl, rfl, rfl, rfl⟩

/-- Ada is protected, is evicted to make room for Bob, and is removed. -/
def evicting : List Event :=
  [.workerProtects adaKey, .workerProceeds .same, .workerProceeds .same, .clockReads 1800000900,
    .workerProtects bobKey, .workerProceeds .same, .workerProceeds .same, .callSends 0,
    .takeRequest, .loopProceeds .same, .loopProceeds .same]

theorem removal_undoes_nothing_ada : NeverUndone (evicting.foldl next radioRoom).log ∧
    SparesSessions (evicting.foldl next radioRoom).log := by
  have follows : Reaches.Follows next (fun event t => ¬SlipsIn event t) evicting radioRoom := by
    decide +kernel
  exact ⟨(removal_undoes_nothing radioRoom_fresh).1 _ (Reaches.follow follows),
    (removal_undoes_nothing radioRoom_fresh).2 _ (Reaches.follow_free next evicting _)⟩

example : ((evicting.foldl next radioRoom).log.filter (isRemoval adaKey)).length = 1 := by
  decide +kernel

/-- The radio's table is full, and Ada's message comes between the re-check and the removal. -/
def overtaken : List Event :=
  [.contactsFull, .loopProceeds .same, .loopProceeds .same, .workerProtects adaKey,
    .workerProceeds .same, .workerProceeds .same, .loopProceeds .same]

theorem protection_undone : ¬ ∀ start t : Tasks, Fresh start →
    Reaches step (fun _ _ => True) start t → NeverUndone t.log := by
  intro claim
  have never := claim radioRoom _ radioRoom_fresh (Reaches.follow_free next overtaken radioRoom)
  have removal : ((overtaken.foldl next radioRoom).log[7]?).any (isRemoval adaKey) = true := by
    decide +kernel
  have held : ((overtaken.foldl next radioRoom).log.take 7).foldl (holds adaKey) false = true := by
    decide +kernel
  exact never.not_held removal ((heldSince_iff _ _).mpr held)

end SupplyDrop.Proof.ContactRemoval
