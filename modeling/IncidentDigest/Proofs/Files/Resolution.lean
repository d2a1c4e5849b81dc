import IncidentDigest.Proofs.Files.Persistence

/-!
# Paths that lead to directories

A path is taken step by step, and the steps of the path one step up are an initial part of its
own (`parent?_spec`).  So where a path can be resolved, everything above it is a directory that
is there (`isDirectory_of_above`).  The other way round, a path leads to a directory
exactly if all of its steps can be taken.
-/

namespace IncidentDigest

/-! ## 1. Pieces and steps -/

namespace FilePath

theorem pieces_eq_splitOn (cs : List Char) : pieces cs = cs.splitOn '/' := by
  induction cs with
  | nil => rfl
  | cons c cs ih =>
      rw [pieces, List.splitOn_cons_eq_if_modifyHead, ← ih]
      by_cases hc : c = '/'
      · simp [hc]
      · rw [if_neg hc, if_neg (by simpa using hc)]
        cases hpieces : pieces cs with
        | nil => exact absurd hpieces (pieces_ne_nil cs)
        | cons p ps => rfl

theorem join_append_cons {ps : List (List Char)} (hne : ps ≠ []) (q : List Char)
    (qs : List (List Char)) : join (ps ++ q :: qs) = join ps ++ '/' :: join (q :: qs) := by
  induction ps with
  | nil => exact absurd rfl hne
  | cons p ps ih =>
      cases ps with
      | nil => rfl
      | cons p' ps =>
          change p ++ '/' :: join ((p' :: ps) ++ q :: qs) =
            (p ++ '/' :: join (p' :: ps)) ++ '/' :: join (q :: qs)
          rw [ih (List.cons_ne_nil _ _), List.append_assoc, List.cons_append]

theorem join_eq_intercalate (ps : List (List Char)) : join ps = ['/'].intercalate ps := by
  induction ps with
  | nil => rfl
  | cons p ps ih =>
      cases ps with
      | nil => simp [join]
      | cons q qs =>
          change p ++ '/' :: join (q :: qs) = _
          rw [ih, List.intercalate_cons_cons]
          simp

theorem join_pieces (cs : List Char) : join (pieces cs) = cs := by
  rw [join_eq_intercalate, pieces_eq_splitOn]
  exact List.intercalate_splitOn '/'

theorem pieces_join {ps : List (List Char)} (hne : ps ≠ []) (h : ∀ p ∈ ps, '/' ∉ p) :
    pieces (join ps) = ps := by
  rw [join_eq_intercalate, pieces_eq_splitOn]
  exact List.splitOn_intercalate '/' h hne

theorem notMem_of_mem_pieces {cs p : List Char} (h : p ∈ pieces cs) : '/' ∉ p := by
  induction cs generalizing p with
  | nil => simp_all [pieces]
  | cons c cs ih =>
      rw [pieces] at h
      split at h
      · rcases List.mem_cons.mp h with rfl | h
        · exact List.not_mem_nil
        · exact ih h
      · split at h
        · rename_i q qs hpieces
          rcases List.mem_cons.mp h with rfl | h
          · have hq : '/' ∉ q := ih (hpieces ▸ List.mem_cons_self)
            simp_all [eq_comm]
          · exact ih (hpieces ▸ List.mem_cons_of_mem q h)
        · exact absurd ‹_› (pieces_ne_nil cs)

theorem join_isPrefix {ps qs : List (List Char)} (h : ps <+: qs) : join ps <+: join qs := by
  obtain ⟨rest, rfl⟩ := h
  cases rest with
  | nil => rw [List.append_nil]
  | cons r rest =>
      by_cases hps : ps = []
      · subst hps
        exact List.nil_prefix
      · rw [join_append_cons hps]
        exact List.prefix_append _ _

/-- The pieces that are taken as steps. -/
def named (ps : List (List Char)) : List String :=
  (ps.map String.ofList).filter fun p => !p.isEmpty

/-- The steps of a path, points among them. -/
def steps (path : String) : List String := named (pieces path.toList)

theorem named_isPrefix {ps qs : List (List Char)} (h : ps <+: qs) : named ps <+: named qs :=
  (h.map String.ofList).filter _

theorem named_pieces_join {ps : List (List Char)} (h : ∀ p ∈ ps, '/' ∉ p) :
    named (pieces (join ps)) = named ps := by
  by_cases hne : ps = []
  · subst hne
    rfl
  · rw [pieces_join hne h]

theorem isPrefix_dropLast {α : Type} {xs ys : List α} {x : α} (h : xs ++ [x] <+: ys) :
    xs <+: ys.dropLast := by
  obtain ⟨rest, rfl⟩ := h
  rw [List.append_assoc, List.dropLast_append_of_ne_nil (by simp)]
  exact List.prefix_append _ _

/-- What is left of some pieces without the last one that is a step has all steps but that one
at most. -/
theorem named_isPrefix_dropLast {up kept ps : List (List Char)} (hne : kept ≠ [])
    (hlast : kept.getLast hne ≠ []) (hkept : kept <+: ps) (hup : up <+: kept.dropLast) :
    named up <+: (named ps).dropLast ∧ named ps ≠ [] := by
  have hsplit : named kept = named kept.dropLast ++ [String.ofList (kept.getLast hne)] := by
    conv_lhs => rw [← List.dropLast_concat_getLast hne]
    unfold named
    rw [List.map_append, List.filter_append, List.map_singleton,
      List.filter_cons_of_pos (by simpa using hlast), List.filter_nil]
  have hstep := named_isPrefix hkept
  rw [hsplit] at hstep
  refine ⟨(named_isPrefix hup).trans (isPrefix_dropLast hstep), ?_⟩
  intro hnone
  rw [hnone] at hstep
  exact List.concat_ne_nil _ _ (List.prefix_nil.mp hstep)

/-! ### One step up -/

theorem trimEnd_eq (ps : List (List Char)) :
    trimEnd ps =
      if ps.rdropWhile isIdle = [] then if ps.head? == some ['.'] then [['.']] else []
      else ps.rdropWhile isIdle := by
  have hkept : (ps.reverse.dropWhile isIdle).reverse = ps.rdropWhile isIdle := rfl
  unfold trimEnd
  rw [hkept]
  cases ps.rdropWhile isIdle with
  | nil => rfl
  | cons p kept => rfl

theorem trimEnd_isPrefix (ps : List (List Char)) : trimEnd ps <+: ps := by
  rw [trimEnd_eq]
  split
  · split
    · rename_i hhead
      obtain ⟨rest, rfl⟩ := List.head?_eq_some_iff.mp (beq_iff_eq.mp hhead)
      exact ⟨rest, rfl⟩
    · exact List.nil_prefix
  · exact List.rdropWhile_prefix isIdle ps

theorem getLast_rdropWhile_ne_nil {ps : List (List Char)} (hne : ps.rdropWhile isIdle ≠ []) :
    (ps.rdropWhile isIdle).getLast hne ≠ [] := by
  intro hnil
  exact List.rdropWhile_last_not isIdle ps hne (by rw [hnil]; rfl)

theorem getLast_trimEnd_ne_nil {ps : List (List Char)} (hne : trimEnd ps ≠ []) :
    (trimEnd ps).getLast hne ≠ [] := by
  by_cases hkept : ps.rdropWhile isIdle = []
  · have hpoint : trimEnd ps = [['.']] := by
      rw [trimEnd_eq, if_pos hkept] at hne ⊢
      split at hne
      · rw [if_pos ‹_›]
      · exact absurd rfl hne
    simp [hpoint]
  · have heq : trimEnd ps = ps.rdropWhile isIdle := by rw [trimEnd_eq, if_neg hkept]
    simpa [heq] using getLast_rdropWhile_ne_nil hkept

/-- A text joined of some first pieces of a text, the last step not among them. -/
theorem join_spec {up kept ps : List (List Char)} (hslash : ∀ p ∈ ps, '/' ∉ p) (hne : kept ≠ [])
    (hlast : kept.getLast hne ≠ []) (hkept : kept <+: ps) (hup : up <+: kept.dropLast) :
    join up <+: join ps ∧
      named (pieces (join up)) <+: (named ps).dropLast ∧ named ps ≠ [] := by
  have hps : up <+: ps := (hup.trans (List.dropLast_prefix kept)).trans hkept
  rw [named_pieces_join fun p hp => hslash p (hps.subset hp)]
  exact ⟨join_isPrefix hps, named_isPrefix_dropLast hne hlast hkept hup⟩

/-- **The path one step up** is an initial part of the path, and its steps are an initial part
of the steps before the last one. -/
theorem parent?_spec {path up : String} (h : parent? path = some up) :
    up.toList <+: path.toList ∧ steps up <+: (steps path).dropLast ∧ steps path ≠ [] := by
  have hslash : ∀ p ∈ pieces path.toList, '/' ∉ p := fun p hp => notMem_of_mem_pieces hp
  have hpath : join (pieces path.toList) = path.toList := join_pieces _
  unfold parent? at h
  unfold steps
  split at h
  · -- the empty piece before a slash is no step, and stays
    rename_i rest hpieces
    rw [hpieces] at hslash hpath ⊢
    split at h
    · cases h
    · rename_i hne
      change rest.rdropWhile isIdle ≠ [] at hne
      obtain rfl := Option.some.inj h
      have hrest : join ([] :: rest) = '/' :: join rest := by
        cases rest with
        | nil => exact absurd rfl hne
        | cons r rest => rfl
      obtain ⟨htext, hsteps⟩ := join_spec (fun p hp => hslash p (List.mem_cons_of_mem _ hp)) hne
        (getLast_rdropWhile_ne_nil hne) (List.rdropWhile_prefix isIdle rest)
        (List.rdropWhile_prefix isIdle (rest.rdropWhile isIdle).dropLast)
      rw [String.toList_ofList, ← hpath, hrest]
      exact ⟨(List.prefix_cons_inj '/').mpr htext, hsteps⟩
  · split at h
    · cases h
    · rename_i hne
      obtain rfl := Option.some.inj h
      obtain ⟨htext, hsteps⟩ := join_spec hslash hne (getLast_trimEnd_ne_nil hne)
        (trimEnd_isPrefix _) (trimEnd_isPrefix _)
      rw [hpath] at htext
      rw [String.toList_ofList]
      exact ⟨htext, hsteps⟩

/-! ### Several steps up -/

theorem length_lt_of_parent? {path up : String} (h : parent? path = some up) :
    up.length < path.length := by
  obtain ⟨htext, hsteps, hne⟩ := parent?_spec h
  refine lt_of_le_of_ne htext.length_le ?_
  intro hlength
  obtain rfl : up = path := String.toList_inj.mp (htext.eq_of_length hlength)
  have hshort := hsteps.length_le
  rw [List.length_dropLast] at hshort
  have := List.length_pos_iff.mpr hne
  omega

/-- No path is left out: what is one step up from one of the paths is one of them. -/
theorem ancestorsWithin_closed {fuel : Nat} {path p up : String} (hfuel : path.length < fuel)
    (hp : p ∈ ancestorsWithin fuel path) (hup : parent? p = some up) :
    up ∈ ancestorsWithin fuel path := by
  induction fuel generalizing path with
  | zero => exact absurd hp List.not_mem_nil
  | succ fuel ih =>
      rw [ancestorsWithin] at hp ⊢
      rcases List.mem_cons.mp hp with rfl | hp
      · have hshort := length_lt_of_parent? hup
        rw [hup]
        dsimp only
        cases fuel with
        | zero => omega
        | succ fuel => exact List.mem_cons_of_mem _ List.mem_cons_self
      · cases hparent : parent? path with
        | none =>
            rw [hparent] at hp
            exact absurd hp List.not_mem_nil
        | some parent =>
            have hshort := length_lt_of_parent? hparent
            rw [hparent] at hp
            exact List.mem_cons_of_mem _ (ih (by omega) hp)

/-- The second path is above the first one: one step up from it, or several. -/
def Above : String → String → Prop := Relation.TransGen fun path up => parent? path = some up

theorem above_spec {path up : String} (h : Above path up) :
    up.toList <+: path.toList ∧ steps up <+: (steps path).dropLast := by
  induction h with
  | single hparent =>
      obtain ⟨htext, hsteps, -⟩ := parent?_spec hparent
      exact ⟨htext, hsteps⟩
  | tail _ hparent ih =>
      obtain ⟨htext, hsteps, -⟩ := parent?_spec hparent
      have hshort := hsteps.trans (List.dropLast_prefix _)
      exact ⟨htext.trans ih.1, hshort.trans ih.2⟩

theorem above_of_mem_ancestorsWithin {fuel : Nat} {path up : String}
    (h : up ∈ ancestorsWithin fuel path) : up = path ∨ Above path up := by
  induction fuel generalizing path with
  | zero => exact absurd h List.not_mem_nil
  | succ fuel ih =>
      rw [ancestorsWithin] at h
      rcases List.mem_cons.mp h with rfl | h
      · exact Or.inl rfl
      · right
        split at h
        · rename_i parent hparent
          rcases ih h with rfl | habove
          · exact .single hparent
          · exact .head hparent habove
        · exact absurd h List.not_mem_nil

/-- **The ancestors of a path** are the path itself and all paths above it. -/
theorem mem_ancestors_iff {path up : String} :
    up ∈ ancestors path ↔ up = path ∨ Above path up := by
  constructor
  · exact above_of_mem_ancestorsWithin
  · rintro (rfl | habove)
    · exact List.mem_cons_self
    · induction habove with
      | single hparent => exact ancestorsWithin_closed (by omega) List.mem_cons_self hparent
      | tail _ hparent ih => exact ancestorsWithin_closed (by omega) ih hparent

end FilePath

namespace FileTree

open FilePath (steps)

/-! ## 2. Resolving -/

/-- A path that is not refused for its text. -/
structure Admissible (path : String) : Prop where
  nonempty : path ≠ ""
  noNul : '\x00' ∉ path.toList
  short : path.utf8ByteSize < maxPathBytes

theorem utf8ByteSize_le_of_isPrefix {a b : String} (h : a.toList <+: b.toList) :
    a.utf8ByteSize ≤ b.utf8ByteSize := by
  obtain ⟨rest, hrest⟩ := h
  have hb : b = a ++ String.ofList rest := by
    rw [← String.toList_inj, String.toList_append, String.toList_ofList, hrest]
  rw [hb, String.utf8ByteSize_append]
  exact Nat.le_add_right _ _

theorem Admissible.of_isPrefix {path up : String} (h : Admissible path)
    (hup : up.toList <+: path.toList) (hne : up ≠ "") : Admissible up where
  nonempty := hne
  noNul hnul := h.noNul (hup.subset hnul)
  short := (utf8ByteSize_le_of_isPrefix hup).trans_lt h.short

theorem origin_of_isPrefix (t : FileTree) {path up : String} (hup : up.toList <+: path.toList)
    (hne : up ≠ "") : t.origin up = t.origin path := by
  obtain ⟨rest, hrest⟩ := hup
  unfold origin
  rw [← hrest, List.head?_append_of_ne_nil _ (by simpa using hne)]

/-- The last step of a path, once the way to it has been taken. -/
def lastStep (t : FileTree) (parent : Location) (name : String) (slash : Bool) :
    Except FileError Target :=
  if name == "." || name == ".." then do return .directory (← t.step parent name)
  else if maxNameBytes < name.utf8ByteSize then throw .nameTooLong
  else return .entry parent name slash

theorem resolve_eq (t : FileTree) {path : String} (h : Admissible path) :
    t.resolve path =
      match (steps path).getLast? with
      | none => .ok (.directory (t.origin path))
      | some name => (steps path).dropLast.foldlM t.step (t.origin path) >>= fun parent =>
          t.lastStep parent name (path.toList.getLast? == some '/') := by
  obtain ⟨hne, hnul, hshort⟩ := h
  unfold resolve
  rw [if_neg (by simpa using hne), if_neg (by simpa using hnul), if_neg (Nat.not_le.mpr hshort)]
  rfl

theorem resolve_of_nul (t : FileTree) {path : String} (h : '\x00' ∈ path.toList) :
    t.resolve path = .error .invalidName := by
  have hne : path ≠ "" := by
    rintro rfl
    exact absurd h (by decide)
  unfold resolve
  rw [if_neg (by simpa using hne), if_pos (by simpa using h)]

theorem resolve_of_long (t : FileTree) {path : String} (hnul : '\x00' ∉ path.toList)
    (h : maxPathBytes ≤ path.utf8ByteSize) : t.resolve path = .error .nameTooLong := by
  have hne : path ≠ "" := by
    rintro rfl
    exact absurd h (by decide)
  unfold resolve
  rw [if_neg (by simpa using hne), if_neg (by simpa using hnul), if_pos h]

theorem admissible_of_resolve {t : FileTree} {path : String} {target : Target}
    (h : t.resolve path = .ok target) : Admissible path := by
  unfold resolve at h
  split at h
  · cases h
  · rename_i hne
    split at h
    · cases h
    · rename_i hnul
      split at h
      · cases h
      · rename_i hshort
        exact ⟨by simpa using hne, by simpa using hnul, Nat.not_le.mp hshort⟩

/-- The way to the last step of a path that has been resolved. -/
theorem way_of_resolve {t : FileTree} {path : String} {target : Target}
    (h : t.resolve path = .ok target) :
    ∃ parent, (steps path).dropLast.foldlM t.step (t.origin path) = .ok parent := by
  rw [resolve_eq t (admissible_of_resolve h)] at h
  rcases List.eq_nil_or_concat' (steps path) with hnone | ⟨before, name, hsome⟩
  · rw [hnone]
    exact ⟨_, rfl⟩
  · rw [hsome, List.getLast?_concat] at h
    obtain ⟨parent, hparent, -⟩ := ok_of_bind h
    exact ⟨parent, by rw [hsome]; exact hparent⟩

theorem step_ok_iff (t : FileTree) (l : Location) {name : String} (h : name ≠ "")
    (h₁ : name ≠ ".") (h₂ : name ≠ "..") :
    (∃ m, t.step l name = .ok m) ↔
      name.utf8ByteSize ≤ maxNameBytes ∧ t.node? (l ++ [name]) = some .directory := by
  unfold step
  rw [if_neg (by simp [h, h₁]), if_neg (by simpa using h₂)]
  by_cases hlong : maxNameBytes < name.utf8ByteSize
  · rw [if_pos hlong]
    simp [Nat.not_le.mpr hlong]
  · rw [if_neg hlong]
    rcases t.node? (l ++ [name]) with _ | _ | content
    · simp
    · simpa using hlong
    · simp

/-- What is found at a target. -/
def found (t : FileTree) : Target → Except FileError FileNode
  | .directory _ => .ok .directory
  | .entry parent name slash =>
    match t.node? (parent ++ [name]) with
    | some (.file content) => if slash then .error .notDirectory else .ok (.file content)
    | some .directory => .ok .directory
    | none => .error .notFound

theorem lookup_eq (t : FileTree) (path : String) :
    t.lookup path = t.resolve path >>= t.found := rfl

theorem isDirectory_eq_true_iff (t : FileTree) (path : String) :
    t.isDirectory path = true ↔ t.lookup path = .ok .directory := by
  unfold isDirectory
  rcases t.lookup path with e | _ | content
  · simp
  · simp
  · simp

theorem found_entry_iff (t : FileTree) (parent : Location) (name : String) (slash : Bool) :
    t.found (.entry parent name slash) = .ok .directory ↔
      t.node? (parent ++ [name]) = some .directory := by
  rw [found]
  rcases t.node? (parent ++ [name]) with _ | _ | content
  · simp
  · simp
  · cases slash
    · simp
    · simp

/-- The last step leads to a directory exactly if it can be taken like the steps before. -/
theorem found_lastStep_iff (t : FileTree) (parent : Location) {name : String} (h : name ≠ "")
    (slash : Bool) :
    t.lastStep parent name slash >>= t.found = .ok .directory ↔
      ∃ l, t.step parent name = .ok l := by
  unfold lastStep
  by_cases hpoints : name = "." ∨ name = ".."
  · rw [if_pos (by simpa using hpoints)]
    cases t.step parent name with
    | error e => simp [bind, Except.bind]
    | ok l => exact ⟨fun _ => ⟨l, rfl⟩, fun _ => rfl⟩
  · obtain ⟨hpoint, htwo⟩ := not_or.mp hpoints
    rw [if_neg (by simpa using hpoints), step_ok_iff t parent h hpoint htwo]
    by_cases hlong : maxNameBytes < name.utf8ByteSize
    · rw [if_pos hlong]
      exact iff_of_false nofun fun hname => absurd hname.1 (Nat.not_le.mpr hlong)
    · rw [if_neg hlong, and_iff_right (Nat.not_lt.mp hlong)]
      exact found_entry_iff t parent name slash

/-- **A path leads to a directory exactly if it is admissible and all of its steps can be
taken.** -/
theorem isDirectory_iff (t : FileTree) (path : String) :
    t.isDirectory path = true ↔
      Admissible path ∧ ∃ l, (steps path).foldlM t.step (t.origin path) = .ok l := by
  have hnames : ∀ p ∈ steps path, p ≠ "" := by
    intro p hp
    simpa using (List.mem_filter.mp hp).2
  rw [isDirectory_eq_true_iff, lookup_eq]
  by_cases hpath : Admissible path
  · rw [and_iff_right hpath, resolve_eq t hpath]
    rcases List.eq_nil_or_concat' (steps path) with hnone | ⟨before, name, hsome⟩
    · rw [hnone]
      exact ⟨fun _ => ⟨_, rfl⟩, fun _ => rfl⟩
    · have hname : name ≠ "" := hnames name (by simp [hsome])
      rw [hsome, List.getLast?_concat, List.dropLast_concat, List.foldlM_append]
      cases before.foldlM t.step (t.origin path) with
      | error e => exact iff_of_false nofun nofun
      | ok parent =>
          have hstep : [name].foldlM t.step parent = t.step parent name := by simp
          change t.lastStep parent name _ >>= t.found = .ok .directory ↔
            ∃ l, [name].foldlM t.step parent = .ok l
          rw [hstep]
          exact found_lastStep_iff t parent hname _
  · refine iff_of_false ?_ fun h => hpath h.1
    intro hfound
    obtain ⟨target, hresolve, -⟩ := ok_of_bind hfound
    exact hpath (admissible_of_resolve hresolve)

theorem foldlM_of_isPrefix {ε α β : Type} {f : α → β → Except ε α} {xs ys : List β} {a b : α}
    (hinitial : xs <+: ys) (h : ys.foldlM f a = .ok b) : ∃ c, xs.foldlM f a = .ok c := by
  obtain ⟨rest, rfl⟩ := hinitial
  rw [List.foldlM_append] at h
  obtain ⟨c, hc, -⟩ := ok_of_bind h
  exact ⟨c, hc⟩

/-- **Above a path that can be resolved there are directories.** -/
theorem isDirectory_of_above {t : FileTree} {path up : String} {target : Target}
    (h : t.resolve path = .ok target) (hup : FilePath.Above path up) (hne : up ≠ "") :
    t.isDirectory up = true := by
  obtain ⟨htext, hsteps⟩ := FilePath.above_spec hup
  obtain ⟨parent, hway⟩ := way_of_resolve h
  rw [isDirectory_iff, origin_of_isPrefix t htext hne]
  exact ⟨(admissible_of_resolve h).of_isPrefix htext hne, foldlM_of_isPrefix hsteps hway⟩

/-! ## 3. Directories that have been made -/

theorem KeepsDirectories.isDirectory {t u : FileTree} (h : t.KeepsDirectories u) {path : String}
    (hpath : t.isDirectory path = true) : u.isDirectory path = true := by
  obtain ⟨hadmissible, l, hsteps⟩ := (t.isDirectory_iff path).mp hpath
  have horigin : u.origin path = t.origin path := by
    unfold origin
    rw [h.workingDirectory]
  refine (u.isDirectory_iff path).mpr ⟨hadmissible, l, ?_⟩
  rw [horigin]
  exact h.steps hsteps

theorem keepsDirectories_set_directory (t : FileTree) (l : Location) :
    t.KeepsDirectories (t.set l .directory) where
  workingDirectory := rfl
  directory m hm := by
    by_cases hml : m = l
    · subst hml
      exact node?_set_self t m _
    · rw [node?_set_of_ne t _ hml, hm]

theorem isDirectory_of_makeDirectory {t u : FileTree} {path : String}
    (h : t.makeDirectory path = .ok u) : u.isDirectory path = true := by
  obtain ⟨hu, -⟩ := makeDirectory_spec h
  have hkeeps : t.KeepsDirectories u := hu ▸ keepsDirectories_set_directory t _
  unfold makeDirectory at h
  obtain ⟨target, hresolve, h⟩ := ok_of_bind h
  have hlocation := location_of_resolve hresolve
  rw [isDirectory_eq_true_iff, lookup_eq, hkeeps.resolve hresolve]
  cases target with
  | directory l => cases h
  | entry parent name slash =>
      refine (found_entry_iff u parent name slash).mpr ?_
      dsimp only [Target.location] at hlocation
      rw [hu, hlocation]
      exact node?_set_self t _ _

theorem isDirectory_of_makeAncestors {t u : FileTree} {path : String} {above : List String}
    (h : t.makeAncestors (path :: above) = (u, .ok ())) (hne : path ≠ "") :
    u.isDirectory path = true := by
  -- a step that cannot be made counts if the directory is there all the same
  have hsettled : ∀ {v : FileTree} {e : FileError},
      (v, if v.isDirectory path = true then Except.ok () else Except.error e) = (u, Except.ok ()) →
        u.isDirectory path = true := by
    intro v e hv
    obtain rfl := congrArg Prod.fst hv
    by_contra hnot
    have hresult := congrArg Prod.snd hv
    dsimp only at hresult
    rw [if_neg hnot] at hresult
    cases hresult
  have hmade : ∀ {v w : FileTree}, v.makeDirectory path = .ok w →
      ((w, Except.ok ()) : FileTree × Except FileError Unit) = (u, Except.ok ()) →
        u.isDirectory path = true := by
    intro v w hmake hv
    obtain rfl := congrArg Prod.fst hv
    exact isDirectory_of_makeDirectory hmake
  rw [makeAncestors] at h
  dsimp only at h
  rw [if_neg (by simpa using hne)] at h
  cases hmake : t.makeDirectory path with
  | ok v =>
      rw [hmake] at h
      exact hmade hmake h
  | error e =>
      rw [hmake] at h
      cases e with
      | notFound =>
          dsimp only at h
          rcases hup : t.makeAncestors above with ⟨v, e | _⟩
          · rw [hup] at h
            cases h
          · rw [hup] at h
            dsimp only at h
            cases hagain : v.makeDirectory path with
            | ok w =>
                rw [hagain] at h
                exact hmade hagain h
            | error e =>
                rw [hagain] at h
                exact hsettled h
      | _ => exact hsettled h

/-- **A directory that has been made is there.** -/
theorem isDirectory_of_makeDirectories {t u : FileTree} {path : String}
    (h : t.makeDirectories path = (u, .ok ())) (hne : path ≠ "") : u.isDirectory path = true :=
  isDirectory_of_makeAncestors h hne

/-! ## 4. The places above a path -/

/-- The locations of all paths above a path. -/
def locationsAbove (t : FileTree) (path : String) : Set Location :=
  {l | ∃ up, FilePath.Above path up ∧ l = t.location up}

theorem mem_locations_ancestors_iff (t : FileTree) (path : String) (l : Location) :
    l ∈ t.locations (FilePath.ancestors path) ↔ l = t.location path ∨ l ∈ t.locationsAbove path := by
  constructor
  · rintro ⟨up, hup, rfl⟩
    rcases FilePath.mem_ancestors_iff.mp hup with rfl | habove
    · exact Or.inl rfl
    · exact Or.inr ⟨up, habove, rfl⟩
  · rintro (rfl | ⟨up, habove, rfl⟩)
    · exact ⟨path, FilePath.mem_ancestors_iff.mpr (Or.inl rfl), rfl⟩
    · exact ⟨up, FilePath.mem_ancestors_iff.mpr (Or.inr habove), rfl⟩

/-- What making the directory one step up adds is above the path. -/
theorem locations_ancestors_subset (t : FileTree) {path up : String}
    (h : FilePath.parent? path = some up) :
    t.locations (FilePath.ancestors up) ⊆ t.locationsAbove path := by
  intro l hl
  rcases (mem_locations_ancestors_iff t up l).mp hl with rfl | ⟨higher, habove, rfl⟩
  · exact ⟨up, .single h, rfl⟩
  · exact ⟨higher, .head h habove, rfl⟩

end FileTree
end IncidentDigest
