import ModuleMapper.FileSystem

/-!
# Names — what counts in a path

  Following a path, empty names and `.` lead nowhere.  What is left when they are dropped are the *solid*
  names of a path.  Joining puts the solid names of two paths one behind the other (`solid_join`), the
  parent is without the last of them (`solid_of_parent?`), and neither changes where a path starts.

  Byte for byte, joining puts a gap between two paths, of one slash at most (`join_of_relative`), and is
  associative (`join_assoc`).  A path is its parent with a gap and something more behind it
  (`exists_of_parent?`).
-/

namespace ModuleMapper

namespace Path

/-! ## Names between slashes -/

theorem names_append_slash (front rest : Path) :
    names (front ++ Byte.slash :: rest) = names front ++ names rest := by
  induction front with
  | nil => simp [names]
  | cons b front ih =>
      by_cases hb : b = Byte.slash
      · simp only [List.cons_append, names, if_pos hb, ih]
      · simp only [List.cons_append, names, if_neg hb, ih]
        cases hnames : names front with
        | nil => exact absurd hnames (names_ne_nil front)
        | cons name others => rfl

theorem names_of_not_mem {path : Path} (h : Byte.slash ∉ path) : names path = [path] := by
  induction path with
  | nil => rfl
  | cons b rest ih =>
      rw [List.mem_cons, not_or] at h
      rw [names, if_neg (Ne.symm h.1), ih h.2]

theorem not_mem_of_mem_names {path : Path} {name : Bytes} (h : name ∈ names path) :
    Byte.slash ∉ name := by
  induction path generalizing name with
  | nil =>
      rw [List.mem_singleton.mp h]
      exact List.not_mem_nil
  | cons b rest ih =>
      by_cases hb : b = Byte.slash
      · rw [names, if_pos hb] at h
        rcases List.mem_cons.mp h with rfl | h
        · exact List.not_mem_nil
        · exact ih h
      · rw [names, if_neg hb] at h
        cases hnames : names rest with
        | nil => exact absurd hnames (names_ne_nil rest)
        | cons first others =>
            rw [hnames] at h ih
            rcases List.mem_cons.mp h with rfl | h
            · rw [List.mem_cons, not_or]
              exact ⟨Ne.symm hb, ih List.mem_cons_self⟩
            · exact ih (List.mem_cons_of_mem _ h)

theorem names_ofNames {list : List Bytes} (hne : list ≠ []) (h : ∀ name ∈ list, Byte.slash ∉ name) :
    names (ofNames list) = list := by
  induction list with
  | nil => exact absurd rfl hne
  | cons name others ih =>
      have hname : Byte.slash ∉ name := h name List.mem_cons_self
      cases others with
      | nil => exact names_of_not_mem hname
      | cons other others =>
          show names (name ++ Byte.slash :: ofNames (other :: others)) = _
          rw [names_append_slash, names_of_not_mem hname,
            ih (List.cons_ne_nil _ _) fun name hmem => h name (List.mem_cons_of_mem _ hmem)]
          rfl

theorem ofNames_names (path : Path) : ofNames (names path) = path := by
  induction path with
  | nil => rfl
  | cons b rest ih =>
      cases hnames : names rest with
      | nil => exact absurd hnames (names_ne_nil rest)
      | cons name others =>
          rw [hnames] at ih
          by_cases hb : b = Byte.slash
          · rw [names, if_pos hb, hnames]
            show Byte.slash :: ofNames (name :: others) = _
            rw [ih, hb]
          · rw [names, if_neg hb, hnames]
            rw [← ih]
            cases others with
            | nil => rfl
            | cons other others => rfl

theorem ofNames_append {first second : List Bytes} (hfirst : first ≠ []) (hsecond : second ≠ []) :
    ofNames (first ++ second) = ofNames first ++ Byte.slash :: ofNames second := by
  induction first with
  | nil => exact absurd rfl hfirst
  | cons name others ih =>
      cases others with
      | nil =>
          obtain ⟨next, more, rfl⟩ := List.exists_cons_of_ne_nil hsecond
          rfl
      | cons other others =>
          show name ++ Byte.slash :: ofNames (other :: others ++ second) = _
          rw [ih (List.cons_ne_nil _ _)]
          show _ = (name ++ Byte.slash :: ofNames (other :: others)) ++ Byte.slash :: ofNames second
          rw [List.append_assoc, List.cons_append]

/-! ## Solid names -/

/-- The names among others that lead somewhere. -/
def solidOf (list : List Bytes) : List Bytes := list.filter fun name => !isFiller name

/-- The names of a path that lead somewhere. -/
def solid (path : Path) : List Bytes := solidOf (names path)

theorem solidOf_append (first second : List Bytes) :
    solidOf (first ++ second) = solidOf first ++ solidOf second := List.filter_append first second

theorem solidOf_cons {name : Bytes} (h : isFiller name = false) (list : List Bytes) :
    solidOf (name :: list) = name :: solidOf list :=
  List.filter_cons_of_pos (by rw [h]; rfl)

theorem solidOf_cons_of_isFiller {name : Bytes} (h : isFiller name = true) (list : List Bytes) :
    solidOf (name :: list) = solidOf list :=
  List.filter_cons_of_neg (by rw [h]; exact Bool.false_ne_true)

/-- What is taken of solid names is solid. -/
theorem solidOf_eq_self {path : Path} {list : List Bytes} (h : list <+: solid path) :
    solidOf list = list :=
  List.filter_eq_self.mpr fun _ hmem => (List.mem_filter.mp (h.subset hmem)).2

theorem solidOf_dropWhile (list : List Bytes) : solidOf (list.dropWhile isFiller) = solidOf list := by
  induction list with
  | nil => rfl
  | cons name others ih =>
      cases hfiller : isFiller name with
      | true =>
          rw [List.dropWhile_cons_of_pos hfiller, ih, solidOf_cons_of_isFiller hfiller]
      | false => rw [List.dropWhile_cons_of_neg (Bool.eq_false_iff.mp hfiller)]

theorem solid_append_slash (front rest : Path) :
    solid (front ++ Byte.slash :: rest) = solid front ++ solid rest := by
  rw [solid, names_append_slash, solidOf_append]
  rfl

theorem solid_slash_cons (rest : Path) : solid (Byte.slash :: rest) = solid rest := rfl

theorem solid_ofNames {list : List Bytes} (h : ∀ name ∈ list, Byte.slash ∉ name) :
    solid (ofNames list) = solidOf list := by
  cases list with
  | nil => rfl
  | cons name others => rw [solid, names_ofNames (List.cons_ne_nil _ _) h]

/-! ## Joining -/

/-- What joining puts behind a path: a slash, unless the path is empty or has one at its end. -/
def gap (base : Path) : Bytes :=
  if base = [] ∨ base.getLast? = some Byte.slash then [] else [Byte.slash]

theorem join_of_absolute (base : Path) {tail : Path} (h : tail.isAbsolute = true) :
    join base tail = tail := if_pos h

theorem join_of_relative (base : Path) {tail : Path} (h : tail.isAbsolute = false) :
    join base tail = base ++ gap base ++ tail := by
  rw [join, if_neg (Bool.eq_false_iff.mp h), gap]
  split
  · rw [List.append_nil]
  · rw [List.append_assoc, List.singleton_append]

/-- The gap depends on the end of a path only. -/
theorem gap_append (front : Path) {base : Path} (hbase : base ≠ []) : gap (front ++ base) = gap base := by
  have hlast : (front ++ base).getLast? = base.getLast? := by
    rw [List.getLast?_append, List.getLast?_eq_some_getLast hbase, Option.some_or]
  simp only [gap, hlast, List.append_eq_nil_iff, hbase, and_false]

/-- Behind a gap there is none. -/
theorem gap_append_gap (base : Path) : gap (base ++ gap base) = [] := by
  by_cases h : base = [] ∨ base.getLast? = some Byte.slash
  · rw [show gap base = [] from if_pos h, List.append_nil]
    exact if_pos h
  · rw [show gap base = [Byte.slash] from if_neg h]
    exact if_pos (Or.inr List.getLast?_concat)

/-- Names that end in a solid one end in no slash. -/
theorem gap_front_append_ofNames (front : Path) {list : List Bytes} {name : Bytes} (hname : name ≠ [])
    (hslash : Byte.slash ∉ name) : gap (front ++ ofNames (list ++ [name])) = [Byte.slash] := by
  have hlast : ∃ init, front ++ ofNames (list ++ [name]) = init ++ name := by
    by_cases hlist : list = []
    · subst hlist
      exact ⟨front, rfl⟩
    · refine ⟨front ++ (ofNames list ++ [Byte.slash]), ?_⟩
      rw [ofNames_append hlist (List.cons_ne_nil _ _), List.append_assoc, List.append_assoc]
      rfl
  obtain ⟨init, hinit⟩ := hlast
  rw [hinit, gap_append init hname, gap, if_neg]
  rintro (hnil | hend)
  · exact hname hnil
  · exact hslash (List.mem_of_getLast? hend)

/-- **Joining puts solid names one behind the other**, unless the second path starts anew. -/
theorem solid_join {base tail : Path} (h : tail.isAbsolute = false) :
    solid (join base tail) = solid base ++ solid tail := by
  unfold join
  rw [if_neg (Bool.eq_false_iff.mp h)]
  split
  · next hbase =>
      rcases hbase with rfl | hlast
      · rfl
      · obtain ⟨init, rfl⟩ := List.getLast?_eq_some_iff.mp hlast
        rw [List.append_assoc, List.singleton_append, solid_append_slash, solid_append_slash]
        show _ = solid init ++ [] ++ solid tail
        rw [List.append_nil]
  · exact solid_append_slash base tail

/-- Joining leaves the first path as it is. -/
theorem exists_join_eq_append (base : Path) {tail : Path} (h : tail.isAbsolute = false) :
    ∃ rest, join base tail = base ++ rest :=
  ⟨gap base ++ tail, by rw [join_of_relative base h, List.append_assoc]⟩

theorem join_ne_nil {base tail : Path} (hbase : base ≠ []) : join base tail ≠ [] := by
  cases habsolute : tail.isAbsolute with
  | true =>
      rw [join_of_absolute base habsolute]
      rintro rfl
      cases habsolute
  | false =>
      obtain ⟨rest, hrest⟩ := exists_join_eq_append base habsolute
      rw [hrest]
      exact List.append_ne_nil_of_left_ne_nil hbase rest

/-- A path that is joined starts where the first one does. -/
theorem isAbsolute_join {base tail : Path} (hbase : base ≠ []) (h : tail.isAbsolute = false) :
    (join base tail).isAbsolute = base.isAbsolute := by
  obtain ⟨b, others, rfl⟩ := List.exists_cons_of_ne_nil hbase
  obtain ⟨rest, hrest⟩ := exists_join_eq_append (b :: others) h
  rw [hrest]
  rfl

/-- **Three paths may be joined from either side**, byte for byte.  An absolute path gives way to nothing
    before it.  For relative ones it comes down to the gaps: the one behind two paths is the one behind the
    second, and an empty path has none, since the one before it is there already. -/
theorem join_assoc (first second third : Path) :
    join (join first second) third = join first (join second third) := by
  cases hthird : third.isAbsolute with
  | true => rw [join_of_absolute _ hthird, join_of_absolute _ hthird, join_of_absolute _ hthird]
  | false =>
      by_cases hnil : second = []
      · -- the gap behind the first path is put in once, from whichever side the paths are joined
        subst hnil
        have hfirst : join first [] = first ++ gap first := by
          rw [join_of_relative first rfl, List.append_nil]
        have hnothing : join [] third = third := join_of_relative [] hthird
        rw [hfirst, hnothing, join_of_relative _ hthird, gap_append_gap, List.append_nil,
          join_of_relative first hthird]
      · cases hsecond : second.isAbsolute with
        | true =>
            -- the first path gives way to the second, with or without the third behind it
            have hjoin : (join second third).isAbsolute = true :=
              (isAbsolute_join hnil hthird).trans hsecond
            rw [join_of_absolute first hsecond, join_of_absolute first hjoin]
        | false =>
            have hjoin : (join second third).isAbsolute = false :=
              (isAbsolute_join hnil hthird).trans hsecond
            rw [join_of_relative first hsecond, join_of_relative first hjoin, join_of_relative _ hthird,
              join_of_relative second hthird, gap_append _ hnil]
            simp only [List.append_assoc]

/-! ## Parents -/

/-- The names in front of the last solid one are the ones that a parent keeps. -/
theorem solidOf_of_dropWhile {list others : List Bytes} {name : Bytes}
    (h : list.reverse.dropWhile isFiller = name :: others) :
    solidOf (others.dropWhile isFiller).reverse = (solidOf list).dropLast := by
  have hname : isFiller name = false := by
    have hhead := List.head?_dropWhile_not isFiller list.reverse
    rw [h] at hhead
    exact hhead
  have hlist : (solidOf list).reverse = name :: solidOf others := by
    rw [← solidOf_cons hname, ← h, solidOf_dropWhile, solidOf, solidOf, List.filter_reverse]
  rw [← List.reverse_reverse (solidOf list), hlist, List.reverse_cons, List.dropLast_concat, solidOf,
    List.filter_reverse]
  exact congrArg List.reverse (solidOf_dropWhile others)

/-- The names that a parent keeps stand at the front. -/
theorem prefix_of_dropWhile {list others : List Bytes} {name : Bytes}
    (h : list.reverse.dropWhile isFiller = name :: others) :
    (others.dropWhile isFiller).reverse <+: list := by
  rw [← List.reverse_suffix, List.reverse_reverse]
  refine (List.dropWhile_suffix isFiller).trans ((List.suffix_cons name others).trans ?_)
  rw [← h]
  exact List.dropWhile_suffix isFiller

/-- What the front of a path is: the slash of an absolute path, a `.` with a slash or nothing behind it,
    or nothing. -/
theorem splitFront_cases (path : Path) :
    (∃ body, path = Byte.slash :: body ∧ splitFront path = ([Byte.slash], body))
      ∨ (path = here ∧ splitFront path = (here, []))
      ∨ (∃ body, path = Byte.dot :: Byte.slash :: body
          ∧ splitFront path = (here, Byte.slash :: body))
      ∨ path.isAbsolute = false ∧ splitFront path = ([], path) := by
  unfold splitFront
  cases path with
  | nil => exact Or.inr (Or.inr (Or.inr ⟨rfl, rfl⟩))
  | cons b rest =>
      simp only
      split
      · next hb =>
          subst hb
          exact Or.inl ⟨rest, rfl, rfl⟩
      · next hb =>
          split
          · next hdot =>
              obtain ⟨rfl, rfl | hslash⟩ := hdot
              · exact Or.inr (Or.inl ⟨rfl, rfl⟩)
              · obtain ⟨body, rfl⟩ := List.head?_eq_some_iff.mp hslash
                exact Or.inr (Or.inr (Or.inl ⟨body, rfl, rfl⟩))
          · refine Or.inr (Or.inr (Or.inr ⟨?_, rfl⟩))
            simpa [isAbsolute] using hb

/-- The front of a path adds no solid name to what is kept of the names behind it. -/
theorem solid_front_append {path : Path} {kept : List Bytes}
    (h : kept <+: names (splitFront path).2) :
    solid ((splitFront path).1 ++ ofNames kept) = solidOf kept := by
  have hslash : ∀ name ∈ kept, Byte.slash ∉ name := fun name hmem =>
    not_mem_of_mem_names (h.subset hmem)
  rcases splitFront_cases path with ⟨body, -, hfront⟩ | ⟨-, hfront⟩ | ⟨body, -, hfront⟩
    | ⟨-, hfront⟩
  · rw [hfront]
    exact solid_ofNames hslash
  · rw [hfront] at h ⊢
    match kept, h with
    | [], _ => rfl
    | [first], h =>
        obtain ⟨rfl, -⟩ := List.cons_prefix_cons.mp h
        rfl
    | first :: second :: more, h =>
        obtain ⟨-, hmore⟩ := List.cons_prefix_cons.mp h
        exact absurd (List.prefix_nil.mp hmore) (List.cons_ne_nil _ _)
  · -- what is kept starts with the empty name between the `.` and its slash, if it is anything
    rw [hfront] at h ⊢
    match kept, h with
    | [], _ => rfl
    | [first], h =>
        obtain ⟨rfl, -⟩ := List.cons_prefix_cons.mp h
        rfl
    | first :: second :: more, h =>
        obtain ⟨rfl, -⟩ := List.cons_prefix_cons.mp h
        show solid (here ++ Byte.slash :: ofNames (second :: more)) = _
        rw [solid_append_slash, solid_ofNames fun name hmem =>
          hslash name (List.mem_cons_of_mem _ hmem)]
        rfl
  · rw [hfront]
    exact solid_ofNames hslash

/-- A path starts where it did, whatever is kept behind its front. -/
theorem isAbsolute_front_append {path : Path} {kept : List Bytes}
    (h : kept <+: names (splitFront path).2) :
    isAbsolute ((splitFront path).1 ++ ofNames kept) = path.isAbsolute := by
  rcases splitFront_cases path with ⟨body, rfl, hfront⟩ | ⟨rfl, hfront⟩ | ⟨body, rfl, hfront⟩
    | ⟨hrelative, hfront⟩
  · rw [hfront]
    rfl
  · rw [hfront]
    rfl
  · rw [hfront]
    rfl
  · -- the first name of a relative path is not empty, unless the path is
    rw [hfront] at h ⊢
    rw [hrelative, List.nil_append]
    cases kept with
    | nil => rfl
    | cons first others =>
        cases path with
        | nil =>
            obtain ⟨rfl, hothers⟩ := List.cons_prefix_cons.mp h
            rw [List.prefix_nil.mp hothers]
            rfl
        | cons b rest =>
            have hb : b ≠ Byte.slash := by simpa [isAbsolute] using hrelative
            cases hnames : names rest with
            | nil => exact absurd hnames (names_ne_nil rest)
            | cons name more =>
                simp only [names, if_neg hb, hnames] at h
                obtain ⟨rfl, -⟩ := List.cons_prefix_cons.mp h
                cases others with
                | nil => exact hrelative
                | cons other others => exact hrelative

/-- The front of a path has no solid name. -/
theorem solidOf_names_splitFront (path : Path) : solidOf (names (splitFront path).2) = solid path := by
  rcases splitFront_cases path with ⟨body, rfl, hfront⟩ | ⟨rfl, hfront⟩ | ⟨body, rfl, hfront⟩
    | ⟨-, hfront⟩
  · rw [hfront]
    rfl
  · rw [hfront]
    rfl
  · rw [hfront]
    show _ = solid (here ++ Byte.slash :: body)
    rw [solid_append_slash]
    rfl
  · rw [hfront]
    rfl

/-- **A parent has the solid names of the path but the last one, and starts where the path does.** -/
theorem solid_of_parent? {path parent : Path} (h : path.parent? = some parent) :
    solid parent = (solid path).dropLast ∧ parent.isAbsolute = path.isAbsolute := by
  simp only [parent?] at h
  rw [← solidOf_names_splitFront path]
  split at h
  · next name others hnames =>
      injection h with hparent
      have hkept := prefix_of_dropWhile hnames
      rw [← hparent, ← solidOf_of_dropWhile hnames]
      exact ⟨solid_front_append hkept, isAbsolute_front_append hkept⟩
  · next hnames =>
      split at h
      · -- nothing but a `.` and fillers: the parent is the empty path
        next hhere =>
          injection h with hparent
          have hnone : (solidOf (names (splitFront path).2)).reverse = [] := by
            rw [solidOf, ← List.filter_reverse]
            show solidOf _ = []
            rw [← solidOf_dropWhile, hnames]
            rfl
          rw [← hparent, List.reverse_eq_nil_iff.mp hnone, ← splitFront_append path, hhere]
          exact ⟨rfl, rfl⟩
      · cases h

/-- What a parent drops, it drops behind what it keeps, and that is something. -/
theorem exists_of_dropWhile {list others : List Bytes} {name : Bytes}
    (h : list.reverse.dropWhile isFiller = name :: others) :
    ∃ dropped, dropped ≠ [] ∧ list = (others.dropWhile isFiller).reverse ++ dropped := by
  obtain ⟨dropped, hdropped⟩ := prefix_of_dropWhile h
  refine ⟨dropped, ?_, hdropped.symm⟩
  rintro rfl
  have hlonger := (List.dropWhile_suffix isFiller (l := list.reverse)).length_le
  have hshorter := (List.dropWhile_suffix isFiller (l := others)).length_le
  rw [h, ← hdropped, List.append_nil] at hlonger
  simp only [List.length_cons, List.length_reverse] at hlonger
  omega

/-- **A path is its parent, with a gap and something more behind it.** -/
theorem exists_of_parent? {path parent : Path} (h : path.parent? = some parent) :
    ∃ rest, path = parent ++ gap parent ++ rest := by
  simp only [parent?] at h
  split at h
  · next name others hnames =>
      injection h with hparent
      obtain ⟨dropped, hne, hbody⟩ := exists_of_dropWhile hnames
      have hpath := splitFront_append path
      rw [← ofNames_names (splitFront path).2, hbody] at hpath
      by_cases hkept : others.dropWhile isFiller = []
      · -- nothing is kept but the front
        rw [hkept, List.reverse_nil, List.nil_append] at hpath hbody
        rw [hkept] at hparent
        rcases splitFront_cases path with ⟨body, -, hfront⟩ | ⟨-, hfront⟩ | ⟨body, -, hfront⟩
          | ⟨-, hfront⟩
        · rw [hfront] at hpath hparent
          exact ⟨_, by rw [← hparent, ← hpath]; rfl⟩
        · rw [hfront] at hnames
          cases hnames
        · rw [hfront] at hpath hparent hbody
          refine ⟨body, ?_⟩
          rw [← hbody, ofNames_names] at hpath
          rw [← hparent, ← hpath]
          rfl
        · rw [hfront] at hpath hparent
          exact ⟨_, by rw [← hparent, ← hpath]; rfl⟩
      · -- the last name that is kept is solid, so that a slash follows
        obtain ⟨last, more, hlast⟩ := List.exists_cons_of_ne_nil hkept
        have hsolid := List.head?_dropWhile_not isFiller others
        rw [hlast] at hsolid hpath hbody hparent
        rw [List.reverse_cons] at hpath hbody hparent
        have hname : last ≠ [] := by
          rintro rfl
          cases hsolid
        have hmem : last ∈ names (splitFront path).2 := by
          rw [hbody]
          exact List.mem_append_left _ (List.mem_append_right _ (List.mem_singleton_self last))
        have hslash : Byte.slash ∉ last := not_mem_of_mem_names hmem
        refine ⟨ofNames dropped, ?_⟩
        rw [← hparent, gap_front_append_ofNames _ hname hslash]
        rw [ofNames_append (List.append_ne_nil_of_right_ne_nil _ (List.cons_ne_nil _ _)) hne] at hpath
        rw [List.append_assoc, List.append_assoc, List.singleton_append]
        exact hpath.symm
  · split at h
    · injection h with hparent
      exact ⟨path, by rw [← hparent]; rfl⟩
    · cases h

/-- A path with a solid name has a parent. -/
theorem exists_parent? {path : Path} (h : solid path ≠ []) : ∃ parent, path.parent? = some parent := by
  simp only [parent?]
  split
  · exact ⟨_, rfl⟩
  · next hnames =>
      refine absurd ?_ h
      rw [← solidOf_names_splitFront, ← List.reverse_eq_nil_iff, solidOf, ← List.filter_reverse]
      show solidOf _ = []
      rw [← solidOf_dropWhile, hnames]
      rfl

end Path

end ModuleMapper
