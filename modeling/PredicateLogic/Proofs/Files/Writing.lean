import PredicateLogic.Files.Tree

/-!
# Reading back what is written

The place that a walk has come to settles the whole way there
(`FileTree.wayTo`), and a walk leads on from folders only. Where a file is put,
there was no folder; so all folders remain, every walk comes to the same place
as before, and what is put there is found.

In the folder in which relative paths start, a file can be written
(`FileTree.run_writeText`).
-/

namespace PredicateLogic

namespace Node

/-!
# Nodes below a node
-/

/-- What stands where names lead to. -/
def find? : Node → (names : List String) → Option Node
  | node, [] => some node
  | .file _, _ :: _ => none
  | .folder entries, name :: names => (entries.lookup name).bind (find? · names)

/-- Whether names lead to a folder. -/
def HoldsFolder (node : Node) (names : List String) : Prop :=
  ∃ entries, node.find? names = some (.folder entries)

theorem find?_concat {node : Node} {names : List String}
    {entries : List (String × Node)}
    (h : node.find? names = some (.folder entries)) (name : String) :
    node.find? (names ++ [name]) = entries.lookup name := by
  induction names generalizing node with
  | nil =>
      obtain rfl := Option.some.inj h
      simp [find?]
  | cons first names ih =>
      cases node with
      | file content => exact absurd h (by simp [find?])
      | folder others =>
          obtain ⟨child, hchild, hfound⟩ := Option.bind_eq_some_iff.mp h
          rw [List.cons_append, find?, hchild]
          exact ih hfound

/-- Only folders hold something. -/
theorem holdsFolder_of_find?_concat {node found : Node} {names : List String}
    {name : String} (h : node.find? (names ++ [name]) = some found) :
    node.HoldsFolder names := by
  induction names generalizing node with
  | nil =>
      cases node with
      | file content => exact absurd h (by simp [find?])
      | folder entries => exact ⟨entries, rfl⟩
  | cons first names ih =>
      cases node with
      | file content => exact absurd h (by simp [find?])
      | folder entries =>
          obtain ⟨child, hchild, hfound⟩ := Option.bind_eq_some_iff.mp h
          obtain ⟨inner, hinner⟩ := ih hfound
          exact ⟨inner, by rw [find?, hchild]; exact hinner⟩

theorem lookup_filter_ne {name other : String} (hname : other ≠ name)
    (entries : List (String × Node)) :
    (entries.filter (·.1 != name)).lookup other = entries.lookup other := by
  induction entries with
  | nil => rfl
  | cons entry entries ih =>
      obtain ⟨first, node⟩ := entry
      by_cases hfirst : first = name
      · subst hfirst
        simp [List.lookup_cons, beq_eq_false_iff_ne.mpr hname, ih]
      · simp [List.lookup_cons, hfirst, ih]

theorem lookup_replaced (entries : List (String × Node)) (name other : String)
    (new : Node) :
    ((name, new) :: entries.filter (·.1 != name)).lookup other =
      if other = name then some new else entries.lookup other := by
  by_cases hname : other = name
  · simp [hname]
  · rw [if_neg hname, List.lookup_cons, beq_eq_false_iff_ne.mpr hname]
    exact lookup_filter_ne hname entries

/-- What is put in a folder stands there. -/
theorem find?_put {node : Node} {names : List String} (new : Node)
    (h : names = [] ∨ node.HoldsFolder names.dropLast) :
    (put new names node).find? names = some new := by
  induction names generalizing node with
  | nil => rfl
  | cons name names ih =>
      obtain ⟨inner, hinner⟩ := h.resolve_left (List.cons_ne_nil _ _)
      cases node with
      | file content => cases names <;> simp_all [find?]
      | folder entries =>
          rw [put, find?, lookup_replaced, if_pos rfl, Option.bind_some]
          refine ih ?_
          cases names with
          | nil => exact .inl rfl
          | cons second names =>
              obtain ⟨child, hchild, hfound⟩ :=
                Option.bind_eq_some_iff.mp hinner
              rw [hchild]
              exact .inr ⟨inner, hfound⟩

/-- Folders remain when something is put where there is none. -/
theorem HoldsFolder.put {node : Node} {names others : List String} (new : Node)
    (hplace : ¬node.HoldsFolder names) (h : node.HoldsFolder others) :
    (Node.put new names node).HoldsFolder others := by
  obtain ⟨inner, hinner⟩ := h
  induction names generalizing node others with
  | nil =>
      cases node with
      | file content => cases others <;> simp [find?] at hinner
      | folder entries => exact absurd ⟨entries, rfl⟩ hplace
  | cons name names ih =>
      cases node with
      | file content => exact ⟨inner, hinner⟩
      | folder entries =>
          cases others with
          | nil => exact ⟨_, rfl⟩
          | cons other others =>
              obtain ⟨child, hchild, hfound⟩ :=
                Option.bind_eq_some_iff.mp hinner
              rw [HoldsFolder, Node.put, find?, lookup_replaced]
              by_cases hother : other = name
              · subst hother
                rw [if_pos rfl, hchild, Option.bind_some]
                refine ih (fun ⟨found, h⟩ => hplace ⟨found, ?_⟩) hfound
                rw [find?, hchild]
                exact h
              · rw [if_neg hother, hchild]
                exact ⟨inner, hfound⟩

end Node

namespace FileTree

/-!
# Walks
-/

/-- Where a walk is after a name: the names that lead there from the root, last
one first. -/
def follow (place : List String) (name : String) : List String :=
  if name == "." then place
  else if name == ".." then place.tail
  else name :: place

/-- The way to a place. -/
def wayTo (t : FileTree) : (place : List String) → Way
  | [] => []
  | name :: place =>
    (name, t.root.find? (name :: place).reverse) :: t.wayTo place

variable {t t' : FileTree}

theorem tail_wayTo (place : List String) :
    (t.wayTo place).tail = t.wayTo place.tail := by
  cases place <;> rfl

theorem map_wayTo (place : List String) :
    (t.wayTo place).map (·.1) = place := by
  induction place with
  | nil => rfl
  | cons name place ih => rw [wayTo, List.map_cons, ih]

theorem node?_wayTo (place : List String) :
    t.node? (t.wayTo place) = t.root.find? place.reverse := by
  cases place with
  | nil => cases ht : t.root <;> simp [wayTo, node?, Node.find?, ht]
  | cons name place => rfl

/-- A walk goes on from folders, along names that are not too long. -/
theorem step_eq_ok_iff {place : List String} {name : String} {way : Way} :
    t.step (t.wayTo place) name = .ok way ↔
      t.root.HoldsFolder place.reverse ∧ name.utf8ByteSize ≤ Path.nameLimit ∧
        way = t.wayTo (follow place name) := by
  rw [step, node?_wayTo]
  cases hnode : t.root.find? place.reverse with
  | none => simp [Node.HoldsFolder, hnode]
  | some node =>
      cases node with
      | file content => simp [Node.HoldsFolder, hnode]
      | folder entries =>
          have hfolder : t.root.HoldsFolder place.reverse := ⟨entries, hnode⟩
          have hentry :
              entries.lookup name = t.root.find? (name :: place).reverse := by
            rw [List.reverse_cons, Node.find?_concat hnode]
          simp only [hfolder, true_and, follow]
          split
          · next hdot =>
            have hsize : name.utf8ByteSize ≤ Path.nameLimit := by
              rw [beq_iff_eq.mp hdot]
              decide
            simp [hsize, eq_comm]
          split
          · next hdots =>
            have hsize : name.utf8ByteSize ≤ Path.nameLimit := by
              rw [beq_iff_eq.mp hdots]
              decide
            simp [hsize, eq_comm, tail_wayTo]
          split
          · next hlong => simp [Nat.not_le.mpr hlong]
          · next hlong => simp [Nat.not_lt.mp hlong, eq_comm, wayTo, hentry]

/-- Whether a place is the root or in a folder. -/
def IsOpen (t : FileTree) (place : List String) : Prop :=
  place = [] ∨ t.root.HoldsFolder place.tail.reverse

theorem isOpen_of_holdsFolder {place : List String}
    (h : t.root.HoldsFolder place.reverse) :
    t.IsOpen place := by
  cases place with
  | nil => exact .inl rfl
  | cons name place =>
      obtain ⟨entries, hfound⟩ := h
      rw [List.reverse_cons] at hfound
      exact .inr (Node.holdsFolder_of_find?_concat hfound)

theorem isOpen_follow {place : List String} {name : String}
    (h : t.root.HoldsFolder place.reverse) : t.IsOpen (follow place name) := by
  rw [follow]
  split
  · exact isOpen_of_holdsFolder h
  split
  · rcases isOpen_of_holdsFolder h with rfl | habove
    · exact .inl rfl
    · exact isOpen_of_holdsFolder habove
  · exact .inr h

/-- A walk never comes to a place below a file, and comes to the same place in a
tree that has all the folders. -/
theorem foldlM_step
    (hfolders : ∀ names, t.root.HoldsFolder names → t'.root.HoldsFolder names)
    {names place : List String} {way : Way} (hplace : t.IsOpen place)
    (h : names.foldlM t.step (t.wayTo place) = .ok way) :
    t.IsOpen (names.foldl follow place) ∧
      way = t.wayTo (names.foldl follow place) ∧
      names.foldlM t'.step (t'.wayTo place) =
        .ok (t'.wayTo (names.foldl follow place)) := by
  induction names generalizing place with
  | nil => exact ⟨hplace, (Except.ok.inj h).symm, rfl⟩
  | cons name names ih =>
      rw [List.foldlM_cons] at h
      cases hstep : t.step (t.wayTo place) name with
      | error fault => simp [hstep, bind, Except.bind] at h
      | ok next =>
          rw [hstep] at h
          obtain ⟨hfolder, hsize, rfl⟩ := step_eq_ok_iff.mp hstep
          have hstep' := step_eq_ok_iff.mpr ⟨hfolders _ hfolder, hsize, rfl⟩
          rw [List.foldlM_cons, hstep', List.foldl_cons]
          exact ih (isOpen_follow hfolder) h

theorem walk_of_fault?_eq_none {p : Path} (h : p.fault? = none) :
    t.walk p = (t.home.join p).names.foldlM t.step [] := by
  rw [walk, h]

/-- A path leads to one place in all trees that start from the same home and
have the folders. -/
theorem exists_place_of_walk {p : Path} {way : Way} (h : t.walk p = .ok way) :
    ∃ place, t.IsOpen place ∧ way = t.wayTo place ∧
      ∀ t' : FileTree, t'.home = t.home →
        (∀ names, t.root.HoldsFolder names → t'.root.HoldsFolder names) →
        t'.walk p = .ok (t'.wayTo place) := by
  cases hfault : p.fault? with
  | some fault => simp [walk, hfault] at h
  | none =>
      rw [walk_of_fault?_eq_none hfault] at h
      replace h :
          (t.home.join p).names.foldlM t.step (t.wayTo []) = .ok way := h
      obtain ⟨hopen, hway, -⟩ := foldlM_step (fun _ => id) (.inl rfl) h
      refine ⟨_, hopen, hway, fun t' hhome hfolders => ?_⟩
      obtain ⟨-, -, hagain⟩ := foldlM_step hfolders (.inl rfl) h
      rw [walk_of_fault?_eq_none hfault, hhome]
      exact hagain

/-!
# Access
-/

theorem run_bind {α β : Type} {x : StateM FileTree α} {a : α}
    (h : x.run t = (a, t')) (f : α → StateM FileTree β) :
    (x >>= f).run t = (f a).run t' := by
  rw [StateT.run_bind, h]
  rfl

theorem run_isPresent (path : String) (t : FileTree) :
    (access.isPresent path).run t = ((t.find (.ofText path)).isOk, t) :=
  rfl

theorem run_readText (path : String) (t : FileTree) :
    (access.readText path).run t = (t.read (.ofText path), t) :=
  rfl

namespace Action

/-!
# Actions
-/

variable {α β : Type}

theorem run_bind (x : Action α) (f : α → Action β) (t : FileTree) :
    (x >>= f).run.run t =
      match x.run.run t with
      | (.ok a, t') => (f a).run.run t'
      | (.error fault, t') => (.error fault, t') := by
  rw [ExceptT.run_bind, StateT.run_bind]
  obtain ⟨result, t'⟩ := x.run.run t
  cases result <;> rfl

theorem run_tryCatch (x : Action α) (f : Fault → Action α) (t : FileTree) :
    (tryCatch x f).run.run t =
      match x.run.run t with
      | (.ok a, t') => (.ok a, t')
      | (.error fault, t') => (f fault).run.run t' := by
  rw [ExceptT.run_tryCatch, StateT.run_bind]
  obtain ⟨result, t'⟩ := x.run.run t
  cases result <;> rfl

theorem run_get (t : FileTree) :
    (get : Action FileTree).run.run t = (.ok t, t) :=
  rfl

theorem run_lift (x : Except Fault α) (t : FileTree) :
    (liftM x : Action α).run.run t = (x, t) := by
  cases x <;> rfl

/-- Both parts of an action that succeeds succeed. -/
theorem exists_of_run_bind {x : Action α} {f : α → Action β} {b : β}
    (h : (x >>= f).run.run t = (.ok b, t')) :
    ∃ a between, x.run.run t = (.ok a, between) ∧
      (f a).run.run between = (.ok b, t') := by
  rw [run_bind] at h
  split at h
  · next a between hx => exact ⟨a, between, hx, h⟩
  · cases h

theorem eq_of_run_lift {x : Except Fault α} {a : α}
    (h : (liftM x : Action α).run.run t = (.ok a, t')) :
    x = .ok a ∧ t = t' := by
  rwa [run_lift, Prod.mk.injEq] at h

end Action

/-!
# Writing
-/

theorem root_put (place : List String) (node : Node) :
    (t.put (t.wayTo place) node).root = Node.put node place.reverse t.root := by
  rw [put, map_wayTo]

/-- A file that is put at the end of a walk, where there is no folder, is found
by the same walk. -/
theorem find_put {p : Path} {way : Way} (content : ByteArray)
    (hwalk : t.walk p = .ok way) (hslash : p.endsInSlash = false)
    (hnode : (t.node? way).any Node.isFolder = false) :
    (t.put way (.file content)).find p = .ok (.file content) := by
  obtain ⟨place, hopen, rfl, hwalks⟩ := exists_place_of_walk hwalk
  have hfree : ¬t.root.HoldsFolder place.reverse := by
    rintro ⟨entries, hfound⟩
    simp [node?_wayTo, hfound, Node.isFolder] at hnode
  have hagain :=
    hwalks (t.put (t.wayTo place) (.file content)) rfl fun names hnames => by
    rw [root_put]
    exact hnames.put _ hfree
  have hfound :
      (t.put (t.wayTo place) (.file content)).root.find? place.reverse =
      some (.file content) := by
    rw [root_put]
    refine Node.find?_put _ (hopen.imp (by simp) ?_)
    rw [List.dropLast_reverse]
    exact id
  rw [find, hagain, hslash]
  simp only [bind, Except.bind, node?_wayTo, hfound]
  rfl

/-- When `replace` succeeds, and what it does then. -/
theorem replace_eq_ok_iff {p : Path} {content : ByteArray} :
    (replace p content).run.run t = (.ok (), t') ↔
      (∃ draft, t.walk (p.draft t.home 0) = .ok draft) ∧
      p.endsInDots = false ∧ p.endsInSlash = false ∧
      ∃ way, t.walk p = .ok way ∧ (t.node? way).any Node.isFolder = false ∧
        t' = t.put way (.file content) := by
  rw [replace, Action.run_bind, Action.run_get]
  simp only
  constructor
  · intro h
    cases hdraft : t.walk (p.draft t.home 0) with
    | error fault =>
        rw [hdraft] at h
        cases h
    | ok draft =>
        simp only [hdraft] at h
        obtain ⟨way, _, hlift, h⟩ := Action.exists_of_run_bind h
        obtain ⟨hwalk, rfl⟩ := Action.eq_of_run_lift hlift
        split at h
        · cases h
        split at h
        · cases h
        split at h
        · cases h
        next hdots hslash hnode =>
          cases h
          exact ⟨⟨draft, rfl⟩, Bool.eq_false_iff.mpr hdots,
            Bool.eq_false_iff.mpr hslash, way, hwalk,
            Bool.eq_false_iff.mpr hnode, rfl⟩
  · rintro ⟨⟨draft, hdraft⟩, hdots, hslash, way, hwalk, hnode, rfl⟩
    simp only [hdraft, hdots, hslash]
    rw [Action.run_bind, hwalk, Action.run_lift]
    simp only [hnode]
    rfl

/-- A folder that is there need not be made. -/
theorem run_ensureFolder {p : Path} {way : Way} {entries : List (String × Node)}
    (hwalk : t.walk p = .ok way)
    (hnode : t.node? way = some (.folder entries)) :
    (construction.ensureFolder p).run.run t = (.ok (), t) := by
  have hmake : (construction.makeFolder p).run.run t =
      (.error .alreadyPresent, t) := by
    change (makeFolder p).run.run t = _
    rw [makeFolder, Action.run_bind, Action.run_get]
    simp only
    rw [Action.run_bind, hwalk, Action.run_lift]
    simp only [hnode]
    rfl
  have hfolder : t.hasFolder p = true := by
    rw [hasFolder, find, hwalk]
    simp only [bind, Except.bind, hnode]
    rfl
  have hcheck : (liftM (construction.isFolder p) : Action Bool).run.run t =
      (.ok true, t) :=
    congrArg (fun b => (Except.ok b, t)) hfolder
  rw [Construction.ensureFolder, Action.run_tryCatch, hmake]
  simp only
  rw [Action.run_bind, hcheck]
  rfl

/-- A file can be written in the folder in which relative paths start. -/
theorem run_writeText {path : String} {here draft way : Way}
    {entries : List (String × Node)} (text : String)
    (hfolder : (Path.ofText path).folder = .here)
    (hhere : t.walk .here = .ok here)
    (hentries : t.node? here = some (.folder entries))
    (hdraft : t.walk ((Path.ofText path).draft t.home 0) = .ok draft)
    (hdots : (Path.ofText path).endsInDots = false)
    (hslash : (Path.ofText path).endsInSlash = false)
    (hwalk : t.walk (.ofText path) = .ok way)
    (hnode : (t.node? way).any Node.isFolder = false) :
    (access.writeText path text).run t =
      (.ok (), t.put way (.file text.toUTF8)) := by
  have hfolders : (construction.makeFolders Path.here.isAbsolute
      Path.here.parts.reverse).run.run t = (.ok (), t) := by
    change (tryCatch (construction.ensureFolder .here) _).run.run t = _
    rw [Action.run_tryCatch, run_ensureFolder hhere hentries]
  change (write (.ofText path) text.toUTF8).run.run t = _
  rw [write, Construction.write, hfolder, Action.run_bind, hfolders]
  exact replace_eq_ok_iff.mpr
    ⟨⟨draft, hdraft⟩, hdots, hslash, way, hwalk, hnode, rfl⟩

/-- What has been written is read back. -/
theorem read_writeText {path text : String}
    (h : (access.writeText path text).run t = (.ok (), t')) :
    t'.read (.ofText path) = .ok text := by
  obtain ⟨_, between, -, hreplace⟩ := Action.exists_of_run_bind h
  obtain ⟨-, -, hslash, way, hwalk, hnode, rfl⟩ :=
    replace_eq_ok_iff.mp hreplace
  have hfind := find_put text.toUTF8 hwalk hslash hnode
  have htext : String.fromUTF8? text.toUTF8 = some text :=
    dif_pos text.isValidUTF8
  rw [read, hfind]
  simp only [bind, Except.bind, htext]
  rfl

end FileTree

end PredicateLogic
