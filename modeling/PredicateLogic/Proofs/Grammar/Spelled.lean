import PredicateLogic.Proofs.Grammar.Token
import PredicateLogic.Proofs.Unicode.Decomposition
import PredicateLogic.Proofs.Unicode.Separator

/-!
# Texts that spell tokens

`Spelled cs ts` says that the text `cs` writes out the tokens `ts`, each
operator in any of its spellings, with any white space around the tokens. Only
between two names is there some white space. The list of tokens need not make up
a formula.

Such a text consists of these tokens, and normalization only replaces white
space in it by white space, provided that it leaves the names as they are.
-/

namespace PredicateLogic

/-- An identifier in normalization form C. -/
def IsName (x : String) : Prop :=
  IsIdentifier x.toList ∧ Unicode.nfc x.toList = x.toList

instance (x : String) : Decidable (IsName x) :=
  inferInstanceAs
    (Decidable (IsIdentifier x.toList ∧ Unicode.nfc x.toList = x.toList))

/-- A text of the tokens `ts` may stand behind a name: it begins with white
space if the first token is a name too. -/
def KeepsApart (cs : List Char) (ts : List Token) : Prop :=
  ∀ y, ts.head? = some (.identifier y) →
    ∃ c ∈ cs.head?, Unicode.isWhiteSpace c = true

/-- The text `cs` writes out the tokens `ts`, in any spelling and with any white
space that keeps names apart. -/
inductive Spelled : (cs : List Char) → (ts : List Token) → Prop
  | nil : Spelled [] []
  | blank {c : Char} {cs : List Char} {ts : List Token} :
      Unicode.isWhiteSpace c = true → Spelled cs ts → Spelled (c :: cs) ts
  | sign {t : Token} {s : Spelling} {cs : List Char} {ts : List Token} :
      (∀ x, t ≠ .identifier x) → t.Spells s → Spelled cs ts →
        Spelled (s ++ cs) (t :: ts)
  | name {x : String} {cs : List Char} {ts : List Token} :
      IsIdentifier x.toList → KeepsApart cs ts → Spelled cs ts →
      Spelled (x.toList ++ cs) (.identifier x :: ts)

theorem keepsApart_blank {c : Char} (hc : Unicode.isWhiteSpace c = true)
    (cs : List Char) (ts : List Token) : KeepsApart (c :: cs) ts :=
  fun _ _ => ⟨c, rfl, hc⟩

theorem keepsApart_sign {t : Token} (ht : ∀ x, t ≠ .identifier x)
    (cs : List Char) (ts : List Token) : KeepsApart cs (t :: ts) :=
  fun y hy => absurd (Option.some.inj hy) (ht y)

theorem Token.Spells.mem_joints {t : Token} {s : Spelling} (h : t.Spells s)
    (ht : ∀ x, t ≠ .identifier x) : ∀ c ∈ s, c ∈ Unicode.joints := by
  have hall :=
    h.of_all ht (fun s => s.all Unicode.joints.contains) (by decide +kernel)
  simpa using hall

namespace Spelled

variable {c : Char} {cs : List Char} {ts : List Token}

/-- The text goes on with white space, or with the first of its tokens. -/
theorem head (h : Spelled cs ts) :
    ∀ c ∈ cs.head?, Unicode.isWhiteSpace c = true ∨
      ∃ t s, ts.head? = some t ∧ t.Spells s ∧
      s.head? = some c := by
  intro c hc
  cases h with
  | nil => simp at hc
  | blank hblank _ =>
      obtain rfl := Option.mem_some.mp hc
      exact .inl hblank
  | sign _ hs _ =>
      obtain ⟨d, r, rfl, -⟩ := hs.head
      exact .inr ⟨_, _, rfl, hs, hc⟩
  | @name x cs ts hx _ _ =>
      have hx' := hx
      obtain ⟨d, r, hxs, -⟩ := hx'
      rw [hxs] at hc
      exact .inr ⟨_, _, rfl, ⟨rfl, hx⟩, by rw [hxs]; exact hc⟩

/-- Nothing that stands behind a name continues it. -/
theorem endsIdentifier (h : Spelled cs ts) (hts : KeepsApart cs ts) :
    EndsIdentifier cs := by
  intro c hc
  rw [← Bool.not_eq_true]
  intro hcontinue
  have hnotblank := isWhiteSpace_of_isIdentifierContinue hcontinue
  rcases h.head c hc with hblank | ⟨t, s, ht, hs, hsc⟩
  · exact Bool.noConfusion (hnotblank.symm.trans hblank)
  · obtain ⟨d, r, rfl, hd | ⟨⟨x, rfl⟩, -⟩⟩ := hs.head
    · obtain rfl := Option.some.inj hsc
      have hsign :=
        isIdentifierContinue_of_mem_signs d (Token.mem_signs_of_mem_heads d hd)
      exact Bool.noConfusion (hsign.symm.trans hcontinue)
    · obtain ⟨e, he, hblank⟩ := hts x ht
      obtain rfl := Option.some.inj (hc.symm.trans he)
      exact Bool.noConfusion (hnotblank.symm.trans hblank)

theorem scan (h : Spelled cs ts) : Scan cs ts [] := by
  induction h with
  | nil => exact .here
  | blank hc _ ih => exact .blank hc ih
  | @sign t s cs ts ht hs _ ih =>
      refine .token hs ?_ ih
      cases t with
      | identifier x => exact absurd rfl (ht x)
      | _ => trivial
  | name hx hts h ih => exact .token ⟨rfl, hx⟩ (h.endsIdentifier hts) ih

theorem map_plainBlank_of_spells {t : Token} {s : Spelling} (h : t.Spells s) :
    s.map Unicode.plainBlank = s := by
  have hid : s.map Unicode.plainBlank = s.map id :=
    List.map_congr_left fun c hc =>
      Unicode.plainBlank_of_not_isWhiteSpace (h.isWhiteSpace c hc)
  rw [hid, List.map_id]

/-- White space may be replaced by other white space. -/
theorem map_plainBlank (h : Spelled cs ts) :
    Spelled (cs.map Unicode.plainBlank) ts := by
  induction h with
  | nil => exact .nil
  | blank hc _ ih => exact .blank (Unicode.plainBlank_spec hc).2.2 ih
  | sign ht hs _ ih =>
      rw [List.map_append, map_plainBlank_of_spells hs]
      exact .sign ht hs ih
  | @name x cs ts hx hts h ih =>
      rw [List.map_append,
        map_plainBlank_of_spells (t := .identifier x) ⟨rfl, hx⟩]
      refine .name hx (fun y hy => ?_) ih
      obtain ⟨c, hc, hblank⟩ := hts y hy
      exact ⟨Unicode.plainBlank c,
        by rw [List.head?_map, Option.mem_def.mp hc]; rfl,
        (Unicode.plainBlank_spec hblank).2.2⟩

/-- What stands behind a name decomposes into a joint first. -/
theorem head_joint (h : Spelled cs ts) (hts : KeepsApart cs ts) :
    ∀ c ∈ cs.head?, ∃ d, Unicode.decompose c = [d] ∧ d ∈ Unicode.joints := by
  intro c hc
  have hblank : Unicode.isWhiteSpace c = true → ∃ d, Unicode.decompose c = [d] ∧
      d ∈ Unicode.joints :=
    fun hc =>
      ⟨_, (Unicode.plainBlank_spec hc).1, (Unicode.plainBlank_spec hc).2.1⟩
  rcases h.head c hc with hc | ⟨t, s, ht, hs, hsc⟩
  · exact hblank hc
  · by_cases hname : ∃ x, t = .identifier x
    · obtain ⟨x, rfl⟩ := hname
      obtain ⟨d, hd, hd'⟩ := hts x ht
      obtain rfl := Option.some.inj (hc.symm.trans hd)
      exact hblank hd'
    · have hjoint :=
        hs.mem_joints (fun x hx => hname ⟨x, hx⟩) c (List.mem_of_head? hsc)
      exact ⟨c, Unicode.decompose_joint c hjoint, hjoint⟩

theorem beginsWithStarter_name {x : String} (hx : IsIdentifier x.toList)
    (hnfc : Unicode.nfc x.toList = x.toList) (cs : List Char) :
    Unicode.BeginsWithStarter (x.toList ++ cs) := by
  have hname : Unicode.BeginsWithStarter x.toList := by
    obtain ⟨c, ds, hxs, hstart, -⟩ := hx
    refine Unicode.beginsWithStarter_of_nfc hnfc fun d hd => ?_
    rw [hxs] at hd
    obtain rfl := Option.mem_some.mp hd
    exact Unicode.combiningClass_of_isIdentifierStart hstart
  have hne : x.toList.flatMap Unicode.decompose ≠ [] := by
    obtain ⟨c, ds, hxs, -, -⟩ := hx
    rw [hxs, List.flatMap_cons]
    exact List.append_ne_nil_of_left_ne_nil (Unicode.decompose_ne_nil c) _
  intro d hd
  rw [List.flatMap_append, List.head?_append, List.head?_eq_some_head hne,
    Option.some_or, ← List.head?_eq_some_head hne] at hd
  exact hname d hd

/-- Normalization replaces white space by white space and leaves all else as it
is. -/
theorem nfc (h : Spelled cs ts)
    (hnames : ∀ x, .identifier x ∈ ts → Unicode.nfc x.toList = x.toList) :
    Unicode.nfc cs = cs.map Unicode.plainBlank ∧
      Unicode.BeginsWithStarter cs := by
  induction h with
  | nil => exact ⟨rfl, by simp [Unicode.BeginsWithStarter]⟩
  | blank hc _ ih =>
      obtain ⟨hdecompose, hjoint, -⟩ := Unicode.plainBlank_spec hc
      obtain ⟨hnfc, hstarter⟩ := ih hnames
      rw [Unicode.nfc_joint_cons hdecompose hjoint hstarter, hnfc]
      exact ⟨rfl, Unicode.beginsWithStarter_joint_cons hdecompose hjoint _⟩
  | sign ht hs _ ih =>
      obtain ⟨hnfc, hstarter⟩ := ih fun x hx =>
        hnames x (List.mem_cons_of_mem _ hx)
      obtain ⟨happend, hstarts⟩ :=
        Unicode.nfc_joints_append (hs.mem_joints ht) hstarter
      rw [happend, hnfc, List.map_append, map_plainBlank_of_spells hs]
      exact ⟨rfl, hstarts⟩
  | @name x cs ts hx hts h ih =>
      obtain ⟨hnfc, hstarter⟩ := ih fun y hy =>
        hnames y (List.mem_cons_of_mem _ hy)
      have hname := hnames x List.mem_cons_self
      have happend : Unicode.nfc (x.toList ++ cs) =
          Unicode.nfc x.toList ++ Unicode.nfc cs := by
        cases cs with
        | nil => rw [List.append_nil]; exact (List.append_nil _).symm
        | cons c cs =>
            obtain ⟨d, hdecompose, hjoint⟩ := h.head_joint hts c rfl
            exact Unicode.nfc_append_joint hdecompose hjoint x.toList cs
      rw [happend, hname, hnfc, List.map_append,
        map_plainBlank_of_spells (t := .identifier x) ⟨rfl, hx⟩]
      exact ⟨rfl, beginsWithStarter_name hx hname cs⟩

/-- Such a text still consists of these tokens when it is normalized. -/
theorem scan_nfc (h : Spelled cs ts)
    (hnames : ∀ x, .identifier x ∈ ts → Unicode.nfc x.toList = x.toList) :
    Scan (Unicode.nfc cs) ts [] := by
  rw [(h.nfc hnames).1]
  exact h.map_plainBlank.scan

end Spelled

end PredicateLogic
