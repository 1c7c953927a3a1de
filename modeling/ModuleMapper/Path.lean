import ModuleMapper.Bytes

/-!
# Paths — names joined by slashes

  A path is a byte string. Joining and taking the parent work on its bytes: joining puts in a slash
  only where one is missing and gives way to an absolute path; the parent drops the last name and
  the fillers around it, where a filler is an empty name or a `.` that is not at the front.
-/

namespace ModuleMapper

/-- A path, absolute when it starts with a slash. -/
abbrev Path := Bytes

namespace Path

/-- Does the path start at the top directory? -/
def isAbsolute (path : Path) : Bool := path.head? == some Byte.slash

/-- The names of a path, empty ones included: what stands between its slashes. -/
def names : Path → List Bytes
  | [] => [[]]
  | b :: rest =>
    if b = Byte.slash then [] :: names rest
    else match names rest with
      | name :: others => (b :: name) :: others
      | [] => [[b]]

/-- Names with slashes between them. -/
def ofNames : List Bytes → Path
  | [] => []
  | [name] => name
  | name :: others => name ++ Byte.slash :: ofNames others

/-- The path `tail`, taken from the directory `base`. -/
def join (base tail : Path) : Path :=
  if isAbsolute tail then tail
  else if base = [] ∨ base.getLast? = some Byte.slash then base ++ tail
  else base ++ Byte.slash :: tail

/-- The name of a directory itself. -/
abbrev here : Bytes := [Byte.dot]

/-- The name of a directory's parent. -/
abbrev up : Bytes := [Byte.dot, Byte.dot]

/-- A name that does not count. -/
def isFiller (name : Bytes) : Bool := name == [] || name == here

/-- The part of a path that fillers cannot be dropped from: the slash of an absolute path, or a `.`
    at the front. With it, what follows. -/
def splitFront (path : Path) : Path × Path :=
  match path with
  | [] => ([], [])
  | b :: rest =>
    if b = Byte.slash then ([b], rest)
    else if b = Byte.dot ∧ (rest = [] ∨ rest.head? = some Byte.slash) then ([b], rest)
    else ([], path)

/-- The path without its last name. None for the empty path and for the top directory. -/
def parent? (path : Path) : Option Path :=
  let (front, body) := splitFront path
  match (names body).reverse.dropWhile isFiller with
  | _ :: others => some (front ++ ofNames (others.dropWhile isFiller).reverse)
  | [] => if front = here then some [] else none

/-! ## A parent is shorter -/

/-- The length of names, each with a slash of its own. -/
def weight : List Bytes → Nat
  | [] => 0
  | name :: others => name.length + 1 + weight others

theorem names_ne_nil (path : Path) : names path ≠ [] := by
  cases path with
  | nil => simp [names]
  | cons b rest =>
    simp only [names]
    split
    · simp
    · split <;> simp

theorem weight_names (path : Path) : weight (names path) = path.length + 1 := by
  induction path with
  | nil => rfl
  | cons b rest ih =>
    simp only [names]
    split
    · simp [weight, ih]; omega
    · cases hn : names rest with
      | nil => exact absurd hn (names_ne_nil rest)
      | cons name others =>
        rw [hn] at ih
        simp only [weight, List.length_cons] at *
        omega

theorem length_ofNames_le (list : List Bytes) : (ofNames list).length ≤ weight list := by
  induction list with
  | nil => simp [ofNames]
  | cons name others ih =>
    cases others with
    | nil => simp [ofNames, weight]
    | cons other others =>
      simp only [ofNames, List.length_append, List.length_cons, weight] at *
      omega

theorem weight_le_of_sublist {list wider : List Bytes} (h : list.Sublist wider) :
    weight list ≤ weight wider := by
  induction h with
  | slnil => exact Nat.le_refl _
  | cons name _ ih => simp only [weight]; omega
  | cons_cons name _ ih => simp only [weight]; omega

theorem splitFront_append (path : Path) : (splitFront path).1 ++ (splitFront path).2 = path := by
  unfold splitFront
  split
  · rfl
  · split
    · rfl
    · split <;> rfl

theorem length_parent?_lt {path parent : Path} (h : parent? path = some parent) :
    parent.length < path.length := by
  have happ := congrArg List.length (splitFront_append path)
  rw [List.length_append] at happ
  unfold parent? at h
  simp only at h
  split at h
  · next name others hd =>
    cases h
    have hsuffix := List.dropWhile_suffix isFiller (l := (names (splitFront path).2).reverse)
    rw [hd] at hsuffix
    have hname : 0 < name.length := by
      have := List.head?_dropWhile_not isFiller (names (splitFront path).2).reverse
      rw [hd] at this
      cases name with
      | nil => simp [isFiller] at this
      | cons => simp
    have hall := weight_le_of_sublist hsuffix.sublist.reverse
    have hkept := weight_le_of_sublist (List.dropWhile_suffix isFiller (l := others)).sublist.reverse
    have hlast : weight (name :: others).reverse = weight others.reverse + name.length + 1 := by
      have happend : ∀ xs : List Bytes, weight (xs ++ [name]) = weight xs + name.length + 1 := by
        intro xs
        induction xs with
        | nil => simp [weight]
        | cons x xs ih => simp only [List.cons_append, weight, ih]; omega
      rw [List.reverse_cons, happend]
    rw [List.reverse_reverse, weight_names] at hall
    have := length_ofNames_le (others.dropWhile isFiller).reverse
    rw [List.length_append]
    omega
  · split at h
    · next hfront =>
      cases h
      rw [hfront] at happ
      simp only [List.length_nil]
      simp at happ
      omega
    · cases h

end Path

end ModuleMapper
