import PredicateLogic.Proofs.Machine.Levels

/-!
# Trying a level

A level is tried at some place, and if nothing can be read there, another
alternative is tried at the same place. This works if a level that fails leaves
the cursor and the depth as it found them, however much it had read before it
failed. A level that reads something leaves the depth alone too, and the cursor
then stands further on, with no white space in front of it.

All levels come out as readings at the place of the cursor, and a reading that
passes on nothing goes on at that place. So only the readings that pass
something on have to be looked at, and these cover a stretch of the text.
-/

namespace PredicateLogic

namespace Reader

variable {inner : Option (Reader Formula)}

theorem enclosed_extends (hinner : ExtendsBelow inner) :
    Extends (enclosed inner) := by
  intro p f q h
  rw [enclosed] at h
  split at h
  · next hopening => exact group_extends hinner hopening h
  · exact call_extends hinner p f q h

theorem quantifiedOrEnclosed_extends (hinner : ExtendsBelow inner) :
    Extends (quantifiedOrEnclosed inner) := by
  intro p f q h
  rw [quantifiedOrEnclosed] at h
  split at h
  · next quantifier length hsign =>
    obtain ⟨s, hs, hmap⟩ := Option.bind_eq_some_iff.mp hsign
    obtain ⟨quantifier', hquantifier, heq⟩ := Option.map_eq_some_iff.mp hmap
    obtain ⟨rfl, rfl⟩ := Prod.mk.inj heq
    obtain ⟨hmem, ds, hrest⟩ := Spelling.firstStarting?_eq_some hs
    exact quantified_extends hinner hmem hquantifier hrest h
  · exact enclosed_extends hinner p f q h

/-- Whatever is read covers a stretch of the text. -/
def Covering {α : Type} (read : Reader α) : Prop :=
  ∀ p a q, (read p).outcome = some (a, q) → p.Covers q

theorem Extends.covering {read : Reader Formula} (h : Extends read) :
    Covering read :=
  fun p f q hread => (h p f q hread).covers

theorem identifier_covering : Covering identifier :=
  fun _ _ _ => identifier_covers

end Reader

/-- The character in front of the end of a trimmed stretch is no white space. -/
theorem Place.In.exists_before {p q : Place} {source : List Char}
    (hp : p.In source) (h : p.Reaches q) :
    ∃ before c, source = before ++ c :: q.rest ∧
      q.offset = Text.size (before ++ [c]) ∧
      Unicode.isWhiteSpace c = false := by
  obtain ⟨above, hsource, hoffset⟩ := hp.cut
  obtain ⟨part, hpart, hne, -, hlast⟩ := h
  obtain ⟨part, c, rfl⟩ := (List.eq_nil_or_concat' part).resolve_left hne
  refine ⟨above ++ part, c, ?_, ?_, hlast c (by simp)⟩
  · rw [hsource, hpart.rest]
    simp
  · rw [hpart.offset, hoffset, ← Text.size_append, List.append_assoc]

namespace Machine

variable {α : Type} {m : Machine} {p : Place} {n : Nat} {run : Run (Option α)}

/-- What a level that was tried on the machine `m` leaves behind. -/
structure Backtracked (m : Machine) (result : Option α) (m' : Machine) :
    Prop where
  source : m'.cursor.source = m.cursor.source
  depth : m'.depth = m.depth
  /-- The cursor stands between two characters of the text, or at one of its
  ends. -/
  boundary : m'.cursor.place?.isSome
  position_le : m'.cursor.position ≤ Text.size m.cursor.source
  position_eq : result = none → m'.cursor.position = m.cursor.position
  position_lt : result.isSome → m.cursor.position < m'.cursor.position
  /-- The cursor stands directly behind a character that is no white space. -/
  behind :
    result.isSome → ∃ before c after, m.cursor.source = before ++ c :: after ∧
    m'.cursor.position = Text.size (before ++ [c]) ∧
      Unicode.isWhiteSpace c = false

/-- A level comes to an end on the machine `m`, and another one can be tried
where it fails. -/
def Backtracks (run : Run (Option α)) (m : Machine) : Prop :=
  ∃ result m', run m = some (result, m') ∧ m.Backtracked result m'

theorem Performs.backtracks {r : Reading α} (h : Performs (run m) m r p)
    (hplace : m.cursor.place? = some p)
    (hcovers : ∀ a q, r.outcome = some (a, q) → p.Covers q) :
    Backtracks run m := by
  have hp := Cursor.in_of_place? hplace
  have hoffset := Cursor.offset_of_place? hplace
  obtain ⟨m', hrun, hnotes⟩ := h
  refine ⟨_, _, hrun, ?_⟩
  have hstop : (r.stop p).In m'.cursor.source := by
    rw [hnotes.source, Reading.stop]
    cases hr : r.outcome with
    | none => exact hp
    | some aq => exact hp.passes (hcovers aq.1 aq.2 hr).reaches.passes
  have hboundary : (m'.movedTo (r.stop p)).cursor.place?.isSome := by
    rw [place?_movedTo hstop]
    rfl
  have hle : (r.stop p).offset ≤ Text.size m.cursor.source :=
    hnotes.source ▸ hstop.offset_le
  cases hr : r.outcome with
  | none =>
      have hstays : (r.stop p).offset = m.cursor.position := by
        rw [Reading.stop, hr]
        exact hoffset
      exact ⟨hnotes.source, hnotes.depth, hboundary, hle, fun _ => hstays,
        by simp, by simp⟩
  | some aq =>
      have hreaches := (hcovers aq.1 aq.2 hr).reaches
      have hmoves : r.stop p = aq.2 := by
        rw [Reading.stop, hr]
        rfl
      obtain ⟨before, c, hsource, hsize, hc⟩ := hp.exists_before hreaches
      refine ⟨hnotes.source, hnotes.depth, hboundary, hle, by simp,
        fun _ => ?_,
        fun _ => ⟨before, c, aq.2.rest, hsource, ?_, hc⟩⟩
      · rw [← hoffset]
        exact hmoves ▸ hreaches.offset_lt
      · exact hmoves ▸ hsize

theorem Simulates.backtracks {read : Reader α} (h : Simulates run n read)
    (hcovering : Reader.Covering read) (hplace : m.cursor.place? = some p)
    (hdepth : m.depth + n = maxNesting) : Backtracks run m := by
  have hp := Cursor.in_of_place? hplace
  have hperforms := h m p hp hdepth
  rw [movedTo_of_place? hplace] at hperforms
  exact hperforms.backtracks hplace (hcovering p)

theorem identifier_simulates (n : Nat) :
    Simulates identifier n Reader.identifier := by
  intro m p hp _
  rcases identifier_apply hp with ⟨x, q, hread, hrun⟩ | ⟨hread, hrun⟩
  · rw [hread, hrun]
    exact performs_success x
  · rw [hread, hrun]
    exact performs_failure _

/-- Every level can be tried at every place of every text and at every depth up
to the bound, whatever else the machine is left with. -/
theorem levels_backtrack (spare : Nat) (hplace : m.cursor.place? = some p)
    (hdepth : m.depth ≤ maxNesting) :
    let inner := operand (maxNesting + spare)
    Backtracks (formula inner) m ∧
      Backtracks
        (chained .implication (chained .junction (operandWith inner))) m ∧
      Backtracks (chained .junction (operandWith inner)) m ∧
      Backtracks (operandWith inner) m ∧ Backtracks (quantified inner) m ∧
      Backtracks (group inner) m ∧ Backtracks (call inner) m ∧
      Backtracks identifier m := by
  obtain ⟨n, hn⟩ := Nat.exists_eq_add_of_le hdepth
  have hinner :
      SimulatesBelow (operand (maxNesting + spare)) n (Reader.operandBelow n) :=
    operand_simulatesBelow (by omega)
  have hbelow := Reader.operandBelow_extends n
  have hoperand := Reader.operandWith_extends hbelow
  have hjunction := Reader.chained_extends Family.junction.spellings hoperand
  have himplication :=
    Reader.chained_extends Family.implication.spellings hjunction
  have hreads := operandWith_simulates hinner hbelow
  have hjoins := chained_simulates .junction hreads hoperand
  intro inner
  refine ⟨?_, ?_, ?_, ?_, ?_, ?_, ?_, ?_⟩
  · exact (formula_simulates hinner hbelow).backtracks
      (Reader.formula_extends hbelow).covering
      hplace hn.symm
  · exact (chained_simulates .implication hjoins hjunction).backtracks
      himplication.covering hplace hn.symm
  · exact hjoins.backtracks hjunction.covering hplace hn.symm
  · exact hreads.backtracks hoperand.covering hplace hn.symm
  · exact (quantified_simulates hinner hbelow).backtracks
      (Reader.quantifiedOrEnclosed_extends hbelow).covering hplace hn.symm
  · exact (group_simulates hinner hbelow).backtracks
      (Reader.enclosed_extends hbelow).covering
      hplace hn.symm
  · exact (call_simulates hinner hbelow).backtracks
      (Reader.call_extends hbelow).covering
      hplace hn.symm
  · exact (identifier_simulates n).backtracks Reader.identifier_covering
      hplace hn.symm

/-- Behind a character of more than one byte and with no nesting left, a group
is tried although it cannot be entered. -/
theorem levels_backtrack_innermost :
    let m : Machine :=
      ⟨⟨"∧ (a)".toList, 4, none, 0⟩, maxNesting, none, maxNesting, []⟩
    m.cursor.place? = some ⟨4, "(a)".toList⟩ ∧
      Backtracks (group (operand maxNesting)) m ∧
      Backtracks (operandWith (operand maxNesting)) m := by
  intro m
  have hplace : m.cursor.place? = some ⟨4, "(a)".toList⟩ := by decide
  obtain ⟨_, _, _, hoperand, _, hgroup, _, _⟩ :=
    levels_backtrack 0 hplace (Nat.le_refl maxNesting)
  exact ⟨hplace, hgroup, hoperand⟩

end Machine

end PredicateLogic
