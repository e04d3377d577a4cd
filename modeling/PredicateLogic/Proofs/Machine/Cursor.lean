import PredicateLogic.Proofs.Grammar.Stretch
import PredicateLogic.Text.Cursor

/-!
# Cursors at a place

A cursor that stands between two characters of its text, or at one of its ends,
has a place, and every operation on it takes it to a place that is not before
this one. So however many operations are performed, none of them looks at the
text from within a character or from beyond its end. Characters are counted
where a number is given, and the position moves on by their bytes.

Where the position has been set to a number at which there is no place, all
operations that look at the text fail, and only these.
-/

namespace PredicateLogic

namespace Place

variable {p : Place} {source : List Char} {offset : Nat}

/-- The places of a text are those found at its offsets. -/
theorem at?_eq_some_iff :
    at? source offset = some p ↔ p.In source ∧ p.offset = offset := by
  rw [at?, Option.map_eq_some_iff]
  constructor
  · rintro ⟨⟨before, rest⟩, hcut, rfl⟩
    obtain ⟨rfl, rfl⟩ := Text.splitAtByte?_eq_some_iff.mp hcut
    exact ⟨⟨before, rfl, (Nat.zero_add _).symm⟩, rfl⟩
  · rintro ⟨⟨before, hbefore⟩, rfl⟩
    have hoffset : Text.size before = p.offset := by
      rw [hbefore.offset, start, Nat.zero_add]
    exact ⟨(before, p.rest),
      Text.splitAtByte?_eq_some_iff.mpr ⟨hbefore.rest, hoffset⟩, rfl⟩

/-- There is no place beyond the end of a text or inside one of its
characters. -/
theorem at?_eq_none_iff :
    at? source offset = none ↔ Text.size source < offset ∨
      Text.Inside source offset := by
  constructor
  · intro h
    rcases Nat.lt_or_ge (Text.size source) offset with hlt | hle
    · exact .inl hlt
    rcases Text.exists_cut_or_inside hle with
      ⟨first, second, rfl, hsize⟩ | hinside
    · have hcut : at? (first ++ second) offset = some ⟨offset, second⟩ :=
        at?_eq_some_iff.mpr
          ⟨⟨first, rfl, by rw [start, Nat.zero_add, hsize]⟩, rfl⟩
      exact absurd (h.symm.trans hcut) (by simp)
    · exact .inr hinside
  · intro h
    rw [Option.eq_none_iff_forall_ne_some]
    intro p hp
    obtain ⟨hin, rfl⟩ := at?_eq_some_iff.mp hp
    obtain ⟨before, hsource, hoffset⟩ := hin.cut
    rcases h with hbeyond | hinside
    · rw [hsource, hoffset, Text.size_append] at hbeyond
      omega
    · rw [hsource, hoffset] at hinside
      exact Text.not_inside_cut _ _ hinside

@[simp] theorem In.advance (hp : p.In source) (n : Nat) :
    (p.advance n).In source :=
  hp.passes (p.passes_advance n)

@[simp] theorem In.skipBlanks (hp : p.In source) : p.skipBlanks.In source :=
  hp.passes p.passes_skipBlanks

theorem In.length_le (hp : p.In source) : p.rest.length ≤ source.length :=
  hp.elim fun part h => Passes.length_le ⟨part, h⟩

theorem In.offset_le (hp : p.In source) : p.offset ≤ Text.size source := by
  obtain ⟨before, hsource, hoffset⟩ := hp.cut
  rw [hsource, hoffset, Text.size_append]
  exact Nat.le_add_right _ _

/-- The end of a text is the place whose offset is the size of the text. -/
theorem In.atEnd_eq (hp : p.In source) :
    (p.offset == Text.size source) = p.atEnd := by
  obtain ⟨before, hsource, hoffset⟩ := hp.cut
  rw [hsource, hoffset, Text.size_append, atEnd]
  cases p.rest with
  | nil => simp
  | cons c cs =>
    have hpos := c.utf8Size_pos
    rw [Text.size_cons, List.isEmpty_cons, beq_eq_false_iff_ne]
    omega

theorem skipWhile_of_head {test : Char → Bool} {c : Char} {cs : List Char}
    (hp : p.rest = c :: cs) (hc : test c = true) :
    (p.advance 1).skipWhile test = p.skipWhile test := by
  simp [skipWhile, advance, hp, hc, Nat.add_assoc]

theorem skipWhile_eq_self {test : Char → Bool}
    (h : ∀ c ∈ p.rest.head?, test c = false) :
    p.skipWhile test = p := by
  obtain ⟨offset, rest⟩ := p
  cases rest with
  | nil => rfl
  | cons c cs => simp [skipWhile, h c rfl]

theorem advance_advance (p : Place) (m n : Nat) :
    (p.advance m).advance n = p.advance (m + n) := by
  simp [advance, List.take_add, Nat.add_assoc]

/-- Whether a character comes next can be told from one character. -/
theorem peek_one_eq_iff {c : Char} :
    p.peek 1 = [c] ↔ p.startsWith c = true := by
  rw [startsWith_iff, peek]
  cases p.rest <;> simp

end Place

namespace Cursor

/-- What is done with a cursor, besides setting its position. -/
inductive Operation where
  | peek (n : Nat)
  | advance (n : Nat)
  | skipBlanks
  | fail (message : String)
  | atEnd
deriving DecidableEq, Repr

/-- Whether the text at the cursor is looked at. -/
def Operation.looks : Operation → Bool
  | .peek _ | .advance _ | .skipBlanks => true
  | .fail _ | .atEnd => false

/-- The cursor after an operation, unless the operation fails. -/
def perform? (c : Cursor) : Operation → Option Cursor
  | .peek n => (c.peek? n).map fun _ => c
  | .advance n => c.advance? n
  | .skipBlanks => c.skipBlanks?
  | .fail message => some (c.fail message)
  | .atEnd => some c

variable {c : Cursor} {p q : Place}

theorem perform?_eq_none_iff {op : Operation} :
    c.perform? op = none ↔ op.looks = true ∧ c.place? = none := by
  cases op <;> simp [perform?, Operation.looks, peek?, advance?, skipBlanks?]

theorem place?_seek (hq : q.In c.source) : (c.seek q.offset).place? = some q :=
  Place.at?_eq_some_iff.mpr ⟨hq, rfl⟩

theorem in_of_place? (h : c.place? = some p) : p.In c.source :=
  (Place.at?_eq_some_iff.mp h).1

theorem offset_of_place? (h : c.place? = some p) : p.offset = c.position :=
  (Place.at?_eq_some_iff.mp h).2

theorem seek_of_place? (h : c.place? = some p) : c.seek p.offset = c := by
  rw [offset_of_place? h, seek]

theorem peek?_of_place? (h : c.place? = some p) (n : Nat) :
    c.peek? n = some (p.peek n) := by
  rw [peek?, h]
  rfl

theorem advance?_of_place? (h : c.place? = some p) (n : Nat) :
    c.advance? n = some (c.seek (p.advance n).offset) := by
  rw [advance?, h]
  rfl

theorem skipBlanks?_of_place? (h : c.place? = some p) :
    c.skipBlanks? = some (c.seek p.skipBlanks.offset) := by
  rw [skipBlanks?, h]
  rfl

/-- White space is skipped one character after the other. -/
theorem skipBlanks?_eq_bind (c : Cursor) :
    c.skipBlanks? = (c.peek? 1).bind fun ahead =>
      if ahead.any Unicode.isWhiteSpace then (c.advance? 1).bind skipBlanks?
      else some c := by
  cases h : c.place? with
  | none => simp [skipBlanks?, peek?, h]
  | some p =>
      have hp := in_of_place? h
      rw [peek?_of_place? h, advance?_of_place? h, skipBlanks?_of_place? h,
        Option.bind_some, Option.bind_some, Place.peek]
      cases hrest : p.rest with
      | nil =>
          rw [Place.skipBlanks, Place.skipWhile_eq_self (by simp [hrest]),
            seek_of_place? h]
          rfl
      | cons d ds =>
          by_cases hd : Unicode.isWhiteSpace d = true
          · have hstep : (p.advance 1).skipBlanks = p.skipBlanks :=
              Place.skipWhile_of_head hrest hd
            rw [if_pos (by simp [hd]),
              skipBlanks?_of_place? (place?_seek (hp.advance 1)), hstep]
            rfl
          · rw [if_neg (by simp [hd]), Place.skipBlanks,
              Place.skipWhile_eq_self (by simp [hrest, hd]), seek_of_place? h]

/-!
# Runs of operations
-/

/-- From the cursor `c` at the place `p`, the cursor `c'` is reached at the
place `q` of the same text. -/
structure Onward (c : Cursor) (p : Place) (c' : Cursor) (q : Place) : Prop where
  source : c'.source = c.source
  place : c'.place? = some q
  passes : p.Passes q

/-- At a place no operation fails, and none of them moves the cursor back. -/
theorem perform?_onward (h : c.place? = some p) (op : Operation) :
    ∃ c' q, c.perform? op = some c' ∧ c.Onward p c' q := by
  have hp := in_of_place? h
  cases op with
  | peek n =>
      exact ⟨c, p, by rw [perform?, peek?_of_place? h]; rfl, rfl, h,
        p.passes_refl⟩
  | advance n =>
      exact ⟨_, _, advance?_of_place? h n, rfl, place?_seek (hp.advance n),
        p.passes_advance n⟩
  | skipBlanks =>
      exact ⟨_, _, skipBlanks?_of_place? h, rfl, place?_seek hp.skipBlanks,
        p.passes_skipBlanks⟩
  | fail message => exact ⟨_, p, rfl, rfl, h, p.passes_refl⟩
  | atEnd => exact ⟨c, p, rfl, rfl, h, p.passes_refl⟩

theorem foldlM_perform?_onward (h : c.place? = some p) (ops : List Operation) :
    ∃ c' q, ops.foldlM perform? c = some c' ∧ c.Onward p c' q := by
  induction ops generalizing c p with
  | nil => exact ⟨c, p, rfl, rfl, h, p.passes_refl⟩
  | cons op ops ih =>
      obtain ⟨c₁, p₁, hop, hfirst⟩ := perform?_onward h op
      obtain ⟨c', q, hops, hrest⟩ := ih hfirst.place
      refine ⟨c', q, ?_, hrest.source.trans hfirst.source, hrest.place,
        hfirst.passes.trans hrest.passes⟩
      rw [List.foldlM_cons, hop]
      exact hops

/-- What the operations that look at the text see from a cursor at the place
`p`, and where they take it. -/
structure MovesExactly (c : Cursor) (p : Place) : Prop where
  peek : ∀ n, c.peek? n = some (p.rest.take (min n p.rest.length))
  advance : ∀ n, c.advance? n =
    some { c with position := c.position + Text.size (p.rest.take n) }
  advance_advance : ∀ m n, (c.advance? m).bind (fun c' => c'.advance? n) =
    some { c with position := c.position + Text.size (p.rest.take (m + n)) }
  skipBlanks : ∃ blanks rest, p.rest = blanks ++ rest ∧
    (∀ b ∈ blanks, Unicode.isWhiteSpace b = true) ∧
    (∀ d ∈ rest.head?, Unicode.isWhiteSpace d = false) ∧
    c.skipBlanks? = some { c with position := c.position + Text.size blanks }

theorem movesExactly (h : c.place? = some p) : c.MovesExactly p := by
  have hp := in_of_place? h
  have hoffset := offset_of_place? h
  have hadvance (n : Nat) :
    (p.advance n).offset = c.position + Text.size (p.rest.take n) := by
    rw [Place.advance, hoffset]
  refine ⟨fun n => ?_, fun n => ?_, fun m n => ?_, ?_⟩
  · rw [peek?_of_place? h, Place.peek, ← List.take_eq_take_min]
  · rw [advance?_of_place? h, hadvance, seek]
  · rw [advance?_of_place? h, Option.bind_some,
      advance?_of_place? (place?_seek (hp.advance m)), Place.advance_advance]
    simp only [seek, hadvance]
  · refine ⟨p.rest.takeWhile Unicode.isWhiteSpace,
      p.rest.dropWhile Unicode.isWhiteSpace,
      List.takeWhile_append_dropWhile.symm,
      List.all_eq_true.mp List.all_takeWhile, ?_, ?_⟩
    · intro d hd
      have hhead := List.head?_dropWhile_not Unicode.isWhiteSpace p.rest
      rw [Option.mem_def.mp hd] at hhead
      simpa using hhead
    · rw [skipBlanks?_of_place? h, Place.skipBlanks, Place.skipWhile,
        seek, hoffset]

/-- From a place of the text on, no run of operations fails. It leads to a place
that is not before the first one, and there every operation sees and skips
exactly the characters that it should. As every part of a run is a run, the same
is true in between. Where the position is set to any number, the operations that
look at the text fail beyond its end and inside its characters, and the others
do not fail. -/
theorem operations_exact (c : Cursor) (ops : List Operation) :
    (∀ p, c.place? = some p →
      ∃ c' q, ops.foldlM perform? c = some c' ∧ c'.source = c.source ∧
        c'.place? = some q ∧ c.position ≤ c'.position ∧
        c'.position ≤ Text.size c.source ∧ c'.MovesExactly q) ∧
    ∀ position op, (c.seek position).perform? op = none ↔
      op.looks = true ∧
        (Text.size c.source < position ∨ Text.Inside c.source position) := by
  constructor
  · intro p h
    obtain ⟨c', q, hops, honward⟩ := foldlM_perform?_onward h ops
    have hq := in_of_place? honward.place
    have hforwards := honward.passes.offset_le
    have hle := hq.offset_le
    rw [offset_of_place? h, offset_of_place? honward.place] at hforwards
    rw [offset_of_place? honward.place, honward.source] at hle
    exact ⟨c', q, hops, honward.source, honward.place, hforwards, hle,
      movesExactly honward.place⟩
  · intro position op
    rw [perform?_eq_none_iff]
    exact and_congr_right' Place.at?_eq_none_iff

/-- A run behind the end of a text, and a position inside its second
character. -/
theorem operations_exact_arrow :
    let c : Cursor := ⟨"a→b".toList, 1, none, 0⟩
    (∃ c' q, [.peek 10, .advance 3, .skipBlanks, .advance 1].foldlM perform? c =
      some c' ∧
      c'.place? = some q ∧ 1 ≤ c'.position ∧ c'.position ≤ 5 ∧
        c'.MovesExactly q) ∧
    (c.seek 2).perform? (.advance 1) = none ∧
      (c.seek 2).perform? .atEnd ≠ none := by
  intro c
  have hplace : c.place? = some ⟨1, "→b".toList⟩ := by decide
  have hinside : Text.Inside c.source 2 :=
    ⟨['a'], '→', ['b'], by decide, by decide, by decide⟩
  obtain ⟨hrun, hseek⟩ :=
    operations_exact c [.peek 10, .advance 3, .skipBlanks, .advance 1]
  obtain ⟨c', q, hops, -, hq, hforwards, hle, hexact⟩ := hrun _ hplace
  refine ⟨⟨c', q, hops, hq, hforwards, hle, hexact⟩,
    (hseek _ _).mpr ⟨rfl, .inr hinside⟩, ?_⟩
  intro hfails
  exact absurd ((hseek _ _).mp hfails).1 (by decide)

end Cursor

end PredicateLogic
