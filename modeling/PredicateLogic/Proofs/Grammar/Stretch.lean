import PredicateLogic.Proofs.Grammar.Lookahead
import PredicateLogic.Proofs.Text.Offset

/-!
# Stretches of a text

Places follow one another in a text: `Place.Leads p part q` says that the
characters `part` lie between them. The places of a text are those that some
part of it leads to from its start, and the span between two of them covers the
characters in between.

What is read never begins or ends with white space, so most stretches of
interest are `Trimmed`; `Place.Reaches` leaves out which characters they are. A
formula ends with a name or a closing parenthesis, and a name ends where no
identifier goes on; `Place.Covers` keeps this too.
-/

namespace PredicateLogic

/-- A text that is not empty and neither begins nor ends with white space. -/
def Trimmed (cs : List Char) : Prop :=
  cs ≠ [] ∧ Unblanked cs ∧ Unblanked cs.reverse

/-- Only what stands at the ends matters. -/
theorem Trimmed.append {cs es : List Char} (hcs : Trimmed cs) (ds : List Char)
    (hes : Trimmed es) :
    Trimmed (cs ++ (ds ++ es)) := by
  obtain ⟨hne, hfirst, -⟩ := hcs
  obtain ⟨hne', -, hlast⟩ := hes
  refine ⟨by simp [hne], fun c hc => hfirst c ?_, fun c hc => hlast c ?_⟩
  · cases cs with
    | nil => exact absurd rfl hne
    | cons d cs => simpa using hc
  · rw [List.reverse_append, List.reverse_append, List.append_assoc] at hc
    cases hrev : es.reverse with
    | nil => exact absurd (List.reverse_eq_nil_iff.mp hrev) hne'
    | cons d ds => simpa [hrev] using hc

theorem trimmed_of_forall {cs : List Char} (hne : cs ≠ [])
    (h : ∀ c ∈ cs, Unicode.isWhiteSpace c = false) : Trimmed cs :=
  ⟨hne, fun c hc => h c (List.mem_of_mem_head? hc),
    fun c hc => h c (List.mem_reverse.mp (List.mem_of_mem_head? hc))⟩

theorem Token.Spells.trimmed {t : Token} {s : Spelling} (h : t.Spells s) :
    Trimmed s := by
  refine trimmed_of_forall ?_ h.isWhiteSpace
  obtain ⟨c, r, rfl, -⟩ := h.head
  simp

namespace Place

/-- The characters `part` lie between two places. -/
structure Leads (p : Place) (part : List Char) (q : Place) : Prop where
  rest : p.rest = part ++ q.rest
  offset : q.offset = p.offset + Text.size part

/-- One place follows another, with anything in between. -/
def Passes (p q : Place) : Prop :=
  ∃ part, p.Leads part q

/-- One place follows another, and what lies in between is trimmed. -/
def Reaches (p q : Place) : Prop :=
  ∃ part, p.Leads part q ∧ Trimmed part

/-- The text does not go on with what ends there: it ends with a closing
parenthesis, or what follows continues no identifier. -/
def Settled (part rest : List Char) : Prop :=
  part.getLast? = some ')' ∨ EndsIdentifier rest

/-- One place follows another, and a formula may lie in between. -/
def Covers (p q : Place) : Prop :=
  ∃ part, p.Leads part q ∧ Trimmed part ∧ Settled part q.rest

variable {p q r s : Place} {part other ds : List Char}

theorem Leads.trans (h : p.Leads part q) (h' : q.Leads other r) :
    p.Leads (part ++ other) r := by
  refine ⟨by rw [h.rest, h'.rest, List.append_assoc], ?_⟩
  rw [h'.offset, h.offset, Text.size_append, Nat.add_assoc]

/-- The same characters lead to the same place. -/
theorem Leads.unique (h : p.Leads part q) (h' : p.Leads part r) : q = r := by
  obtain ⟨offset, rest⟩ := q
  obtain ⟨offset', rest'⟩ := r
  obtain rfl : rest = rest' :=
    List.append_cancel_left (h.rest.symm.trans h'.rest)
  obtain rfl : offset = offset' := h.offset.trans h'.offset.symm
  rfl

theorem leads_advance (h : p.rest = part ++ ds) :
    p.Leads part (p.advance part.length) := by
  refine ⟨by rw [advance_rest_of_append h, h], ?_⟩
  rw [advance, h, List.take_left]

theorem leads_skipWhile (p : Place) (test : Char → Bool) :
    p.Leads (p.rest.takeWhile test) (p.skipWhile test) :=
  ⟨List.takeWhile_append_dropWhile.symm, rfl⟩

theorem leads_skipBlanks (p : Place) :
    p.Leads (p.rest.takeWhile Unicode.isWhiteSpace) p.skipBlanks :=
  p.leads_skipWhile _

theorem leads_of_startsWith {c : Char} (h : p.startsWith c = true) :
    p.Leads [c] (p.advance 1) := by
  obtain ⟨ds, hds⟩ := List.head?_eq_some_iff.mp (startsWith_iff.mp h)
  exact leads_advance hds

theorem passes_refl (p : Place) : p.Passes p :=
  ⟨[], rfl, rfl⟩

theorem Passes.trans (h : p.Passes q) (h' : q.Passes r) : p.Passes r := by
  obtain ⟨part, hpart⟩ := h
  obtain ⟨other, hother⟩ := h'
  exact ⟨_, hpart.trans hother⟩

theorem passes_skipBlanks (p : Place) : p.Passes p.skipBlanks :=
  ⟨_, p.leads_skipBlanks⟩

theorem passes_advance (p : Place) (n : Nat) : p.Passes (p.advance n) :=
  ⟨_, (List.take_append_drop n p.rest).symm, rfl⟩

/-- Over a sign and the white space behind it. -/
theorem passes_sign (p : Place) (n : Nat) : p.Passes (p.advance n).skipBlanks :=
  (passes_advance p n).trans (passes_skipBlanks _)

theorem Reaches.passes (h : p.Reaches q) : p.Passes q := by
  obtain ⟨part, hpart, -⟩ := h
  exact ⟨part, hpart⟩

theorem Passes.length_le (h : p.Passes q) : q.rest.length ≤ p.rest.length := by
  obtain ⟨part, hpart⟩ := h
  rw [hpart.rest, List.length_append]
  exact Nat.le_add_left _ _

theorem Reaches.length_lt (h : p.Reaches q) :
    q.rest.length < p.rest.length := by
  obtain ⟨part, hpart, hne, -⟩ := h
  have hpos := List.length_pos_iff.mpr hne
  rw [hpart.rest, List.length_append]
  omega

theorem Passes.offset_le (h : p.Passes q) : p.offset ≤ q.offset := by
  obtain ⟨part, hpart⟩ := h
  rw [hpart.offset]
  exact Nat.le_add_right _ _

theorem Reaches.offset_lt (h : p.Reaches q) : p.offset < q.offset := by
  obtain ⟨part, hpart, hne, -⟩ := h
  obtain ⟨c, cs, rfl⟩ := List.exists_cons_of_ne_nil hne
  have hpos := c.utf8Size_pos
  rw [hpart.offset, Text.size_cons]
  omega

theorem Covers.reaches (h : p.Covers q) : p.Reaches q := by
  obtain ⟨part, hpart, htrimmed, -⟩ := h
  exact ⟨part, hpart, htrimmed⟩

/-- A trimmed stretch goes on to the end of a formula, over whatever lies in
between. -/
theorem Reaches.append_covers (h : p.Reaches q) (h' : q.Passes r)
    (h'' : r.Covers s) :
    p.Covers s := by
  obtain ⟨cs, hcs, htrimmed⟩ := h
  obtain ⟨ds, hds⟩ := h'
  obtain ⟨es, hes, htrimmed', hsettled⟩ := h''
  refine ⟨_, hcs.trans (hds.trans hes), htrimmed.append ds htrimmed',
    hsettled.imp_left ?_⟩
  intro hlast
  rw [List.getLast?_append, List.getLast?_append, hlast]
  rfl

theorem covers_of_closing (h : p.startsWith ')' = true) :
    p.Covers (p.advance 1) :=
  ⟨[')'], leads_of_startsWith h,
    Token.Spells.trimmed (t := .closing) rfl, .inl rfl⟩

theorem reaches_of_spells {t : Token} {s : Spelling} (hs : t.Spells s)
    (hp : p.rest = s ++ ds) :
    p.Reaches (p.advance s.length) :=
  ⟨s, leads_advance hp, hs.trimmed⟩

theorem reaches_of_startsWith {t : Token} {c : Char} (ht : t.Spells [c])
    (h : p.startsWith c = true) : p.Reaches (p.advance 1) :=
  ⟨[c], leads_of_startsWith h, ht.trimmed⟩

/-- The place lies in the text. -/
def In (p : Place) (source : List Char) : Prop :=
  (start source).Passes p

variable {source : List Char}

theorem In.passes (hp : p.In source) (h : p.Passes q) : q.In source :=
  hp.trans h

theorem in_start (source : List Char) : (start source).In source :=
  passes_refl _

/-- The text is cut at the place. -/
theorem In.cut (hp : p.In source) :
    ∃ before, source = before ++ p.rest ∧ p.offset = Text.size before := by
  obtain ⟨before, hbefore⟩ := hp
  refine ⟨before, hbefore.rest, ?_⟩
  rw [hbefore.offset, start, Nat.zero_add]

/-- The span between two places of a text covers the characters that lie between
them. -/
theorem In.slice?_eq (hp : p.In source) (h : p.Leads part q) :
    Text.slice? ⟨p.offset, q.offset⟩ source = some part := by
  obtain ⟨before, hsource, hoffset⟩ := hp.cut
  rw [h.offset, hoffset, hsource, h.rest]
  exact Text.slice?_append before part q.rest

end Place

end PredicateLogic
