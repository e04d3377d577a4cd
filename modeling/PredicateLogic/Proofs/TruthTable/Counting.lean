import PredicateLogic.Proofs.TruthTable.Counter

/-!
# Counting up in place

`countUp` finds the last false value and writes from there to the end, and does
by this what `nextAssignment?` does from the front of the list. So one step in
place adds one to the number, or finds it to be the greatest of its length and
changes nothing. A run of steps goes through all greater numbers in order and
then stays where it is.
-/

namespace PredicateLogic

theorem lastFalse?_cons (b : Bool) (bs : List Bool) :
    lastFalse? (b :: bs) =
      match lastFalse? bs with
      | some i => some (i + 1)
      | none => if b then none else some 0 := by
  have hbehind : ((List.range bs.length).map Nat.succ).findRev?
      (fun i => (b :: bs)[i]? == some false) =
        (lastFalse? bs).map Nat.succ := by
    rw [lastFalse?, List.findRev?_eq_find?_reverse,
      List.findRev?_eq_find?_reverse, ← List.map_reverse, List.find?_map]
    rfl
  rw [lastFalse?, List.length_cons, List.range_succ_eq_map,
    List.findRev?, hbehind]
  cases lastFalse? bs with
  | some i => rfl
  | none => cases b <;> simp

/-- The first value is written only if all values behind it are true. -/
theorem countUp_cons (b : Bool) (bs : List Bool) :
    countUp (b :: bs) =
      if (countUp bs).1 then (true, b :: (countUp bs).2)
      else if b then (false, b :: bs)
      else (true, true :: bs.map fun _ => false) := by
  rw [countUp, countUp, lastFalse?_cons]
  cases lastFalse? bs with
  | some i => simp
  | none => cases b <;> simp

theorem countUp_eq (bs : List Bool) :
    countUp bs =
      ((nextAssignment? bs).isSome, (nextAssignment? bs).getD bs) := by
  induction bs with
  | nil => rfl
  | cons b bs ih =>
      rw [countUp_cons, ih, nextAssignment?]
      cases nextAssignment? bs with
      | some cs => rfl
      | none => cases b <;> rfl

theorem nextAssignment?_eq_some_iff_countUp {bs cs : List Bool} :
    nextAssignment? bs = some cs ↔ countUp bs = (true, cs) := by
  rw [countUp_eq]
  cases nextAssignment? bs with
  | none => simp
  | some ds => simp

variable {bs : List Bool}

theorem countUp_of_lt (h : number bs + 1 < 2 ^ bs.length) :
    ∃ cs, countUp bs = (true, cs) ∧ cs.length = bs.length ∧
      number cs = number bs + 1 := by
  cases hnext : nextAssignment? bs with
  | none => exact absurd (nextAssignment?_eq_none_iff.mp hnext) (Nat.ne_of_lt h)
  | some cs =>
      exact ⟨cs, nextAssignment?_eq_some_iff_countUp.mp hnext,
        number_of_nextAssignment? hnext⟩

theorem countUp_of_greatest (h : number bs + 1 = 2 ^ bs.length) :
    countUp bs = (false, bs) := by
  rw [countUp_eq, nextAssignment?_eq_none_iff.mpr h]
  rfl

theorem number_lt_or_greatest (bs : List Bool) :
    number bs + 1 < 2 ^ bs.length ∨ number bs + 1 = 2 ^ bs.length :=
  Nat.lt_or_eq_of_le (number_lt bs)

/-- The results and the numbers of a run: first the greater numbers in order,
then the greatest for as often as there is no next one. -/
theorem countUps_eq (times : Nat) (bs : List Bool) :
    (countUps times bs).map
        (fun counted => (counted.1, counted.2.length, number counted.2)) =
      (List.range' (number bs + 1)
          (min times (2 ^ bs.length - 1 - number bs))).map
          (fun k => (true, bs.length, k)) ++
        List.replicate (times - (2 ^ bs.length - 1 - number bs))
          (false, bs.length, 2 ^ bs.length - 1) := by
  induction times generalizing bs with
  | zero => simp [countUps]
  | succ times ih =>
      rw [countUps, List.map_cons]
      rcases number_lt_or_greatest bs with hlt | hgreatest
      · obtain ⟨cs, hcs, hlength, hnumber⟩ := countUp_of_lt hlt
        -- One of the greater numbers is used up by the step.
        have hleft : 2 ^ bs.length - 1 - number bs =
            2 ^ bs.length - 1 - number cs + 1 := by
          omega
        rw [hcs, ih cs, hlength, hleft, Nat.add_min_add_right, List.range'_succ,
          List.map_cons, hnumber, Nat.add_sub_add_right]
        rfl
      · have hleft : 2 ^ bs.length - 1 - number bs = 0 := by omega
        have hnumber : number bs = 2 ^ bs.length - 1 := by omega
        rw [countUp_of_greatest hgreatest, ih bs, hleft, hnumber, Nat.min_zero,
          Nat.min_zero, Nat.sub_zero, Nat.sub_zero, List.replicate_succ]
        rfl

/-- Counting up takes the step to the next list. It succeeds exactly below the
greatest number of the length, and then adds one; otherwise it changes nothing.
The length stays. A run of steps succeeds once for each greater number, in
increasing order, and from then on fails and stays at the greatest number. -/
theorem countUp_successor (bs : List Bool) :
    (∀ cs, nextAssignment? bs = some cs ↔ countUp bs = (true, cs)) ∧
      ((countUp bs).1 = true ↔ number bs < 2 ^ bs.length - 1) ∧
      ((countUp bs).1 = true → number (countUp bs).2 = number bs + 1) ∧
      ((countUp bs).1 = false → (countUp bs).2 = bs) ∧
      (countUp bs).2.length = bs.length ∧
      ∀ times, (countUps times bs).map
          (fun counted => (counted.1, counted.2.length, number counted.2)) =
        (List.range' (number bs + 1)
            (min times (2 ^ bs.length - 1 - number bs))).map
            (fun k => (true, bs.length, k)) ++
          List.replicate (times - (2 ^ bs.length - 1 - number bs))
            (false, bs.length, 2 ^ bs.length - 1) := by
  refine ⟨fun cs => nextAssignment?_eq_some_iff_countUp, ?_⟩
  rcases number_lt_or_greatest bs with hlt | hgreatest
  · obtain ⟨cs, hcs, hlength, hnumber⟩ := countUp_of_lt hlt
    have hbelow : number bs < 2 ^ bs.length - 1 := by omega
    rw [hcs]
    exact ⟨iff_of_true rfl hbelow, fun _ => hnumber,
      fun h => Bool.noConfusion h, hlength, fun times => countUps_eq times bs⟩
  · have hbelow : ¬number bs < 2 ^ bs.length - 1 := by omega
    rw [countUp_of_greatest hgreatest]
    exact ⟨iff_of_false Bool.false_ne_true hbelow, fun h => Bool.noConfusion h,
      fun _ => rfl, rfl, fun times => countUps_eq times bs⟩

example : countUps 3 [true, false, true] =
    [(true, [true, true, false]), (true, [true, true, true]),
      (false, [true, true, true])] := by
  decide

end PredicateLogic
