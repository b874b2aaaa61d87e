import Q38Runtime.BoundaryRing

/-!
The slots of the boundary ring over a whole run: while no lease fails to be made,
a slot is taken exactly as long as one copy or one lease holds it, and a copy that
waits is on its way as soon as a slot is free.
-/
namespace Q38.BoundaryRing

section Slots

variable {ring : Ring} {slots slot : Nat} {leased : Nat → Bool} {held : List Nat}

/-- The slots that are taken are those that somebody holds, each held once. -/
structure Booked (slots : Nat) (leased : Nat → Bool) (held : List Nat) : Prop where
  once : held.Nodup
  taken : ∀ slot < slots, leased slot = true ↔ slot ∈ held
  inside : ∀ slot ∈ held, slot < slots

theorem Booked.of_perm {other : List Nat} (booked : Booked slots leased held)
    (permuted : held.Perm other) : Booked slots leased other :=
  ⟨permuted.nodup_iff.mp booked.once,
    fun slot inside => (booked.taken slot inside).trans permuted.mem_iff,
    fun slot listed => booked.inside slot (permuted.mem_iff.mpr listed)⟩

theorem Booked.take (booked : Booked slots leased held) (inside : slot < slots)
    (free : leased slot = false) : Booked slots (setLeased leased slot true) (slot :: held) := by
  have absent : slot ∉ held := by
    intro listed
    rw [← booked.taken slot inside, free] at listed
    cases listed
  refine ⟨List.nodup_cons.mpr ⟨absent, booked.once⟩, ?_, ?_⟩
  · intro other inside'
    rw [setLeased, List.mem_cons]
    split
    · next same => simp [same]
    · next apart => rw [booked.taken other inside', or_iff_right apart]
  · intro other listed
    rcases List.mem_cons.mp listed with rfl | listed
    · exact inside
    · exact booked.inside other listed

theorem Booked.giveBack (booked : Booked slots leased (slot :: held)) :
    Booked slots (setLeased leased slot false) held := by
  obtain ⟨absent, once⟩ := List.nodup_cons.mp booked.once
  refine ⟨once, ?_, fun other listed => booked.inside other (List.mem_cons_of_mem _ listed)⟩
  intro other inside
  rw [setLeased]
  split
  · next same => simp [same, absent]
  · next apart => rw [booked.taken other inside, List.mem_cons, or_iff_right apart]

/-- The slots that are free. -/
def freeSlots (ring : Ring) : Nat := (List.range ring.slots).countP fun slot => !ring.leased slot

theorem booked_count (booked : Booked slots leased held) :
    (List.range slots).countP (fun slot => !leased slot) + held.length = slots := by
  have members : ((List.range slots).filter leased).Perm held := by
    rw [List.perm_ext_iff_of_nodup (List.nodup_range.filter _) booked.once]
    intro slot
    rw [List.mem_filter, List.mem_range]
    constructor
    · rintro ⟨inside, taken⟩
      exact (booked.taken slot inside).mp taken
    · intro listed
      have inside := booked.inside slot listed
      exact ⟨inside, (booked.taken slot inside).mpr listed⟩
  have both := List.length_eq_countP_add_countP (fun slot => !leased slot) (l := List.range slots)
  rw [List.length_range] at both
  have taken : (List.range slots).countP (fun slot => decide ¬(!leased slot) = true) =
      held.length := by
    rw [← members.length_eq, ← List.countP_eq_length_filter]
    apply List.countP_congr
    simp
  omega

theorem find_slot_some (found : findSlot ring = some slot) :
    slot < ring.slots ∧ ring.leased slot = false := by
  have free := List.find?_some found
  have listed := List.mem_of_find?_eq_some found
  obtain ⟨attempt, inside, rfl⟩ := List.mem_map.mp listed
  rw [List.mem_range] at inside
  exact ⟨Nat.mod_lt _ (Nat.zero_lt_of_lt inside), by simpa using free⟩

/-- The loop from the cursor on comes to every slot. -/
theorem find_slot_none (full : findSlot ring = none) (inside : slot < ring.slots) :
    ring.leased slot = true := by
  have positive := Nat.zero_lt_of_lt inside
  have start := Nat.mod_lt ring.cursor positive
  rw [findSlot, List.find?_eq_none] at full
  have reached (attempt : Nat) (few : attempt < ring.slots)
      (lands : (ring.cursor % ring.slots + attempt) % ring.slots = slot) :
      ring.leased slot = true := by
    have looked := full ((ring.cursor + attempt) % ring.slots)
      (List.mem_map_of_mem (List.mem_range.mpr few))
    rw [← Nat.mod_add_mod, lands] at looked
    simpa using looked
  by_cases ahead : ring.cursor % ring.slots ≤ slot
  · apply reached (slot - ring.cursor % ring.slots) (by omega)
    rw [Nat.add_sub_of_le ahead, Nat.mod_eq_of_lt inside]
  · apply reached (slot + ring.slots - ring.cursor % ring.slots) (by omega)
    rw [Nat.add_sub_of_le (by omega), Nat.add_mod_right, Nat.mod_eq_of_lt inside]

end Slots

section Invariant

def Copy.isLooking : Copy → Bool
  | .looking _ => true
  | _ => false

def looking (ring : Ring) : Nat := ring.copies.countP Copy.isLooking

/-- What holds of the ring while no lease fails to be made. The second part says
that a slot that is free, if a copy sleeps, has a copy looking for it or a
notification under way. -/
structure Kept (ring : Ring) : Prop where
  booked : Booked ring.slots ring.leased (holders ring)
  woken : ∀ words, Copy.asleep words ∈ ring.copies →
    ring.slots ≤ (holders ring).length + looking ring + ring.notifying

variable {ring after : Ring} {event : Event}

theorem make_ring_kept (slots capacityWords : Nat) : Kept (makeRing slots capacityWords) :=
  ⟨⟨List.nodup_nil, by simp [makeRing, holders, heldBy], by simp [makeRing, holders, heldBy]⟩,
    by simp [makeRing]⟩

theorem held_at (before behind : List Copy) (copy : Copy) (leases : List Held) :
    (heldBy (before ++ copy :: behind) leases).Perm
      (copy.slot?.toList ++ heldBy (before ++ behind) leases) := by
  unfold heldBy
  rw [List.filterMap_append, List.filterMap_append, List.filterMap_cons]
  cases copy.slot? with
  | none => exact List.Perm.refl _
  | some slot =>
      rw [Option.toList_some, List.singleton_append, List.append_assoc, List.append_assoc,
        List.cons_append]
      exact List.perm_middle

theorem looking_at (before behind : List Copy) (copy : Copy) :
    (before ++ copy :: behind).countP Copy.isLooking =
      (before ++ behind).countP Copy.isLooking + if copy.isLooking then 1 else 0 := by
  rw [List.countP_append, List.countP_append, List.countP_cons]
  omega

/-- A step after which the same slots are held, nobody new sleeps and nobody is lost. -/
theorem Kept.of_same (kept : Kept ring) (slots : after.slots = ring.slots)
    (leased : after.leased = ring.leased) (held : (holders ring).Perm (holders after))
    (sleepers : ∀ words, Copy.asleep words ∈ after.copies →
      ∃ words, Copy.asleep words ∈ ring.copies)
    (awake : looking ring + ring.notifying ≤ looking after + after.notifying) : Kept after := by
  refine ⟨?_, ?_⟩
  · rw [slots, leased]
    exact kept.booked.of_perm held
  · intro words asleep
    obtain ⟨other, slept⟩ := sleepers words asleep
    have enough := kept.woken other slept
    rw [held.length_eq] at enough
    omega

/-- A copy goes on to its next place with the slot that it has. -/
theorem Kept.replace {before behind : List Copy} {copy : Copy} (kept : Kept ring) (next : Copy)
    (at_ : ring.copies = before ++ copy :: behind) (slot : next.slot? = copy.slot?)
    (stays : ∀ words, next ≠ .asleep words) (statistics : Statistics) (notifying : Nat)
    (awake : (if copy.isLooking then 1 else 0) + ring.notifying ≤
      (if next.isLooking then 1 else 0) + notifying) :
    Kept { ring with
      copies := before ++ next :: behind
      statistics := statistics
      notifying := notifying } := by
  refine kept.of_same rfl rfl ?_ ?_ ?_
  · rw [holders, at_]
    refine (held_at before behind copy ring.leases).trans ?_
    rw [← slot]
    exact (held_at before behind next ring.leases).symm
  · intro words asleep
    rw [List.mem_append, List.mem_cons] at asleep
    rw [at_]
    rcases asleep with early | rfl | late
    · exact ⟨words, List.mem_append_left _ early⟩
    · exact absurd rfl (stays words)
    · exact ⟨words, List.mem_append_right _ (List.mem_cons_of_mem _ late)⟩
  · simp only [looking, at_, looking_at]
    omega

/-- Who is asleep when one copy is left out. -/
theorem asleep_others {before behind : List Copy} {copy : Copy} {words : Nat}
    (at_ : ring.copies = before ++ copy :: behind)
    (asleep : Copy.asleep words ∈ before ++ behind) : Copy.asleep words ∈ ring.copies := by
  rw [at_, List.mem_append, List.mem_cons]
  exact (List.mem_append.mp asleep).imp_right .inr

theorem look_kept {before behind : List Copy} {words : Nat} (kept : Kept ring)
    (at_ : ring.copies = before ++ .looking words :: behind) :
    Kept { (look ring words).2 with copies := before ++ (look ring words).1 :: behind } := by
  have front := held_at before behind (.looking words) ring.leases
  rw [← at_] at front
  unfold look
  cases found : findSlot ring with
  | some slot =>
      obtain ⟨inside, free⟩ := find_slot_some found
      have taken := (kept.booked.of_perm front).take inside free
      have back := held_at before behind (.copying ⟨slot, words⟩ copyCalls) ring.leases
      constructor
      case booked => exact taken.of_perm back.symm
      case woken =>
        intro other asleep
        simp only [List.mem_append, List.mem_cons, reduceCtorEq, false_or] at asleep
        have enough := kept.woken other (asleep_others at_ (List.mem_append.mpr asleep))
        rw [holders, front.length_eq, looking, at_, looking_at] at enough
        simp only [holders, looking]
        rw [back.length_eq, looking_at]
        simp only [Copy.slot?, Copy.isLooking, Option.toList_none, Option.toList_some,
          List.nil_append, List.singleton_append, List.length_cons, if_true, Bool.false_eq_true,
          if_false, Nat.add_zero] at enough ⊢
        omega
  | none =>
      have same : (holders ring).Perm (heldBy (before ++ .asleep words :: behind) ring.leases) :=
        front.trans (held_at before behind (.asleep words) ring.leases).symm
      constructor
      case booked => exact kept.booked.of_perm same
      case woken =>
        intro other _
        -- every slot is taken, so the holders are as many as the slots
        have none_free : (List.range ring.slots).countP (fun slot => !ring.leased slot) = 0 := by
          rw [List.countP_eq_zero]
          intro slot listed
          simp [find_slot_none found (List.mem_range.mp listed)]
        have counted := booked_count kept.booked
        have length := same.length_eq
        simp only [holders] at counted length ⊢
        omega

theorem restore_kept {before behind : List Copy} {held : Held} (kept : Kept ring)
    (at_ : ring.copies = before ++ .failed held :: behind) :
    Kept { restore ring held.slot with copies := before ++ behind } := by
  have front := held_at before behind (.failed held) ring.leases
  rw [← at_] at front
  constructor
  case booked => exact (kept.booked.of_perm front).giveBack
  case woken =>
    intro words asleep
    have enough := kept.woken words (asleep_others at_ asleep)
    rw [holders, front.length_eq, looking, at_, looking_at] at enough
    simp only [Copy.slot?, Copy.isLooking, Option.toList_some, List.singleton_append,
      List.length_cons, Bool.false_eq_true, if_false, Nat.add_zero] at enough
    simp only [restore, holders, looking]
    omega

theorem release_kept {before behind : List Held} {held : Held} (kept : Kept ring)
    (at_ : ring.leases = before ++ held :: behind) :
    Kept { restore ring held.slot with leases := before ++ behind } := by
  have front : (holders ring).Perm (held.slot :: heldBy ring.copies (before ++ behind)) := by
    rw [holders, heldBy, heldBy, at_, List.map_append, List.map_cons, ← List.append_assoc]
    refine List.perm_middle.trans ?_
    rw [List.append_assoc, ← List.map_append]
  constructor
  case booked => exact (kept.booked.of_perm front).giveBack
  case woken =>
    intro words asleep
    have enough := kept.woken words asleep
    rw [front.length_eq, List.length_cons] at enough
    simp only [restore, holders, looking] at enough ⊢
    omega

theorem lease_kept {before behind : List Copy} {held : Held} (kept : Kept ring)
    (at_ : ring.copies = before ++ .leasing held :: behind) :
    Kept { ring with copies := before ++ behind, leases := held :: ring.leases } := by
  have front := held_at before behind (.leasing held) ring.leases
  rw [← at_] at front
  refine kept.of_same rfl rfl ?_ ?_ ?_
  · refine front.trans ?_
    have leased : ((before ++ behind).filterMap Copy.slot? ++
        held.slot :: ring.leases.map Held.slot).Perm
        (held.slot :: heldBy (before ++ behind) ring.leases) := List.perm_middle
    exact leased.symm
  · intro words asleep
    exact ⟨words, asleep_others at_ asleep⟩
  · simp only [looking, at_, looking_at]
    simp [Copy.isLooking]

theorem step_kept (kept : Kept ring) (step : Step ring event after)
    (allocated : event ≠ .leaseFailed) : Kept after := by
  cases step with
  | call words alive valid =>
      refine kept.of_same rfl rfl (List.Perm.refl _) ?_ ?_
      · intro other asleep
        exact ⟨other, by simpa using asleep⟩
      · simp only [looking, List.countP_cons]
        omega
  | look before behind words at_ => exact look_kept kept at_
  | cuda before behind held first rest at_ =>
      by_cases last : rest = []
      · rw [if_pos last]
        exact kept.replace (.copied held) at_ rfl (by simp) ring.statistics ring.notifying
          (by simp [Copy.isLooking])
      · rw [if_neg last]
        exact kept.replace (.copying held rest) at_ rfl (by simp) ring.statistics ring.notifying
          (by simp [Copy.isLooking])
  | cudaFailed before behind held calls at_ =>
      exact kept.replace (.failed held) at_ rfl (by simp) ring.statistics ring.notifying
        (by simp [Copy.isLooking])
  | restore before behind held at_ => exact restore_kept kept at_
  | count before behind held at_ =>
      exact kept.replace (.leasing held) at_ rfl (by simp) _ ring.notifying
        (by simp [Copy.isLooking])
  | lease before behind held at_ => exact lease_kept kept at_
  | leaseFailed => exact absurd rfl allocated
  | release before behind held at_ => exact release_kept kept at_
  | notify before behind words pending at_ =>
      refine kept.replace (.looking words) at_ rfl (by simp) ring.statistics
        (ring.notifying - 1) ?_
      simp only [Copy.isLooking, Bool.false_eq_true, if_false, if_true]
      omega
  | notifyNobody pending nobody =>
      exact ⟨kept.booked, fun words asleep => absurd asleep (nobody words)⟩
  | wake before behind words at_ =>
      refine kept.replace (.looking words) at_ rfl (by simp) ring.statistics ring.notifying ?_
      simp only [Copy.isLooking, Bool.false_eq_true, if_false, if_true]
      omega
  | destroy => exact ⟨kept.booked, kept.woken⟩

theorem run_kept {slots capacityWords : Nat} {events : List Event}
    (run : Run (makeRing slots capacityWords) events ring)
    (allocated : Event.leaseFailed ∉ events) : Kept ring := by
  induction run with
  | here => exact make_ring_kept slots capacityWords
  | next middle after events event run step ih =>
      rw [List.mem_append, not_or] at allocated
      exact step_kept (ih allocated.1) step fun failed => allocated.2 (by simp [failed])

end Invariant

section Leases

/-- A call of the only running copy up to the making of its lease. -/
def transferred (ring : Ring) (words slot : Nat) : Ring :=
  { ring with
    cursor := (slot + 1) % ring.slots
    leased := setLeased ring.leased slot true
    copies := [.leasing ⟨slot, words⟩]
    statistics :=
      { ring.statistics with
        transfers := ring.statistics.transfers + 1
        bytes := ring.statistics.bytes + words * 2 } }

theorem transferred_run {start ring : Ring} {events : List Event} {words slot : Nat}
    (run : Run start events ring) (alive : ring.alive = true)
    (valid : words ≠ 0 ∧ words ≤ ring.capacityWords) (idle : ring.copies = [])
    (found : findSlot ring = some slot) :
    ∃ more, Event.leaseFailed ∉ more ∧ Run start (events ++ more) (transferred ring words slot) := by
  have called := Run.next _ _ _ _ _ run (.call ring words alive valid)
  rw [idle] at called
  have looks := Step.look { ring with copies := [.looking words] } [] [] words rfl
  have looked : look { ring with copies := [.looking words] } words =
      (.copying ⟨slot, words⟩ copyCalls,
        { ring with
          copies := [.looking words]
          cursor := (slot + 1) % ring.slots
          leased := setLeased ring.leased slot true }) := by
    rw [look, show findSlot { ring with copies := [.looking words] } = some slot from found]
  rw [looked] at looks
  have taken := Run.next _ _ _ _ _ called looks
  have one := Run.next _ _ _ _ _ taken (.cuda _ [] [] ⟨slot, words⟩ _ _ rfl)
  have two := Run.next _ _ _ _ _ one (.cuda _ [] [] ⟨slot, words⟩ _ _ rfl)
  have three := Run.next _ _ _ _ _ two (.cuda _ [] [] ⟨slot, words⟩ _ _ rfl)
  have four := Run.next _ _ _ _ _ three (.cuda _ [] [] ⟨slot, words⟩ _ _ rfl)
  have five := Run.next _ _ _ _ _ four (.cuda _ [] [] ⟨slot, words⟩ _ _ rfl)
  have six := Run.next _ _ _ _ _ five (.cuda _ [] [] ⟨slot, words⟩ _ _ rfl)
  have seven := Run.next _ _ _ _ _ six (.cuda _ [] [] ⟨slot, words⟩ _ _ rfl)
  have eight := Run.next _ _ _ _ _ seven (.cuda _ [] [] ⟨slot, words⟩ _ _ rfl)
  have counted := Run.next _ _ _ _ _ eight (.count _ [] [] ⟨slot, words⟩ rfl)
  simp only [List.append_assoc, List.cons_append, List.nil_append] at counted
  exact ⟨_, by decide, counted⟩

end Leases

end Q38.BoundaryRing
