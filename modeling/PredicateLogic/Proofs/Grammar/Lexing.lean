import PredicateLogic.Proofs.Grammar.Token

/-!
# Texts consist of at most one list of tokens

Wherever a text is a list of tokens up to its end, it is only one. A name
reaches as far as its characters do, no sign begins with a character of names,
and one sign begins another only where the longer one goes on with a character
that no token begins with.
-/

namespace PredicateLogic

namespace Token.Spells

variable {t t' : Token} {s s' : Spelling} {x y : String} {cs ds ds' : List Char}

/-- A sign that begins another one stands for the same token, unless the other
one goes on with a character that no token begins with. -/
theorem eq_of_prefix (hs : t.Spells s) (ht : ∀ x, t ≠ .identifier x)
    (hs' : t'.Spells s') (ht' : ∀ x, t' ≠ .identifier x) (h : s <+: s') :
    (t = t' ∧ s = s') ∨ s' = s ++ ['>'] := by
  have hall : (signTable.all fun e => signTable.all fun e' =>
      !e.1.isPrefixOf e'.1 || e == e' || e'.1 == e.1 ++ ['>']) = true := by
    decide +kernel
  have hpair :=
    List.all_eq_true.mp (List.all_eq_true.mp hall _ (hs.mem_signTable ht)) _
      (hs'.mem_signTable ht')
  simp only [Bool.or_eq_true, Bool.not_eq_true', beq_iff_eq,
    Prod.mk.injEq] at hpair
  rcases hpair with (hbegins | ⟨hss, htt⟩) | hlonger
  · rw [List.isPrefixOf_iff_prefix.mpr h] at hbegins
    exact Bool.noConfusion hbegins
  · exact .inl ⟨htt, hss⟩
  · exact .inr hlonger

theorem signs_unique (hs : t.Spells s) (ht : ∀ x, t ≠ .identifier x)
    (hs' : t'.Spells s') (ht' : ∀ x, t' ≠ .identifier x)
    (hds : ∀ c ∈ ds.head?, c ≠ '>') (hbegins : s <+: s')
    (h : s ++ ds = s' ++ ds') : t = t' ∧ ds = ds' := by
  rcases hs.eq_of_prefix ht hs' ht' hbegins with ⟨htt, rfl⟩ | rfl
  · exact ⟨htt, List.append_cancel_left h⟩
  · rw [List.append_assoc] at h
    exact absurd rfl (hds '>' (by rw [List.append_cancel_left h]; rfl))

/-- No sign begins with the first character of a name. -/
theorem sign_ne_name (hs : t.Spells s) (ht : ∀ x, t ≠ .identifier x)
    (hx : (identifier x).Spells s') : s ++ ds ≠ s' ++ ds' := by
  obtain ⟨-, c, r, rfl, hstart, -⟩ := hx
  obtain ⟨d, q, rfl, hd⟩ := hs.head
  have hsign : d ∈ t.heads := hd.resolve_right fun hname => hname.1.elim ht
  intro heq
  obtain rfl := (List.cons.inj heq).1
  exact not_mem_signs_of_isIdentifierStart hstart
    (mem_signs_of_mem_heads d hsign)

theorem takeWhile_name (h : (identifier x).Spells s)
    (hends : EndsIdentifier ds) :
    (s ++ ds).takeWhile isIdentifierContinue = s := by
  obtain ⟨-, c, r, rfl, hstart, hcontinue⟩ := h
  refine takeWhile_run (List.forall_mem_cons.mpr ⟨?_, hcontinue⟩) hends
  exact isIdentifierContinue_of_isIdentifierStart hstart

theorem names_unique (hx : (identifier x).Spells s)
    (hy : (identifier y).Spells s') (hends : EndsIdentifier ds)
    (hends' : EndsIdentifier ds') (h : s ++ ds = s' ++ ds') :
    x = y ∧ ds = ds' := by
  obtain rfl : s = s' := by
    rw [← hx.takeWhile_name hends, h, hy.takeWhile_name hends']
  exact ⟨String.toList_inj.mp (hx.1.symm.trans hy.1), List.append_cancel_left h⟩

/-- A text of tokens begins with only one token. -/
theorem unique (hs : t.Spells s) (hs' : t'.Spells s') (hends : t.EndsBefore ds)
    (hends' : t'.EndsBefore ds') (hds : ∀ c ∈ ds.head?, c ≠ '>')
    (hds' : ∀ c ∈ ds'.head?, c ≠ '>') (h : s ++ ds = s' ++ ds') :
    t = t' ∧ ds = ds' := by
  by_cases ht : ∃ x, t = .identifier x
  · obtain ⟨x, rfl⟩ := ht
    by_cases ht' : ∃ y, t' = .identifier y
    · obtain ⟨y, rfl⟩ := ht'
      obtain ⟨hxy, hrest⟩ := names_unique hs hs' hends hends' h
      exact ⟨congrArg _ hxy, hrest⟩
    · exact absurd h.symm (sign_ne_name hs' (not_exists.mp ht') hs)
  · have hsign := not_exists.mp ht
    by_cases ht' : ∃ y, t' = .identifier y
    · obtain ⟨y, rfl⟩ := ht'
      exact absurd h (sign_ne_name hs hsign hs')
    · have hsign' := not_exists.mp ht'
      have hbegins : s <+: s' ++ ds' := h ▸ List.prefix_append s ds
      rcases List.prefix_or_prefix_of_prefix hbegins (List.prefix_append s' ds')
        with hle | hle
      · exact signs_unique hs hsign hs' hsign' hds hle h
      · exact (signs_unique hs' hsign' hs hsign hds' hle h.symm).imp
          Eq.symm Eq.symm

end Token.Spells

/-- A text consists of at most one list of tokens. -/
theorem Scan.unique {cs : List Char} {ts us : List Token} (hts : Scan cs ts [])
    (hus : Scan cs us []) : ts = us := by
  generalize hrest : ([] : List Char) = rest at hts
  induction hts generalizing us with
  | here =>
      rw [← hrest] at hus
      cases us with
      | nil => rfl
      | cons u us =>
          obtain ⟨s, ds, hcs, hs, -, -⟩ := hus.cons_inv (by simp [Unblanked])
          obtain ⟨c, r, rfl, -⟩ := hs.head
          exact absurd hcs (by simp)
  | @blank c cs ts rest hc h ih =>
      have htail := hus.dropWhile
      rw [List.dropWhile_cons, if_pos hc] at htail
      exact ih htail.of_dropWhile hrest
  | @token t s cs ts rest hs hends h ih =>
      rw [← hrest] at h
      cases us with
      | nil =>
          obtain ⟨c, r, rfl, -⟩ := hs.head
          exact absurd (hus.nil_inv hs.unblanked) (by simp)
      | cons u us =>
          obtain ⟨s', ds, hcs, hs', hends', hus⟩ := hus.cons_inv hs.unblanked
          obtain ⟨rfl, rfl⟩ :=
            hs.unique hs' hends hends' h.head_ne_greater hus.head_ne_greater hcs
          rw [ih hus hrest]

end PredicateLogic
