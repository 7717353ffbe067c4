import DriverHandover.Host.Mounts
import DriverHandover.Proofs.Host.Path
import Mathlib.Data.List.Forall2

/-!
# The order in which mount points are unmounted

What is mounted on a directory has to go before the directory, so the deepest mount points come
first. Sorting by depth alone keeps those of one depth in their order, and with it whatever stands
between two listings of one path; only neighbours are told to repeat each other.

## Main definitions

* `Mounts.deepestFirst`, `Mounts.below` – the order, and the mount points that are put into it.

## Main statements

* `Mounts.nodup_dropRepeats_iff` – when dropping neighbours leaves each key once.
* `Mounts.filter_depth_mergeSort` – sorting leaves the mount points of one depth in their order.
* `Mounts.map_parts_under` – only the components of paths count.
* `Mounts.unmounted_deepest_first` – what is unmounted, and in which order.
* `Mounts.unmounted_once_iff` – when no path is unmounted twice.
-/

namespace DriverHandover.Mounts

variable {α β : Type} {root : String} {points : List String}

section Repeats

variable [BEq β] {keys : List β} {k : β}

theorem dropRepeats_sublist (same : α → α → Bool) (l : List α) :
    (dropRepeats same l).Sublist l := by
  fun_induction dropRepeats same l with
  | case1 => exact List.Sublist.refl _
  | case2 a => exact List.Sublist.refl _
  | case3 a b rest h ih => exact ih.trans ((List.sublist_cons_self b rest).cons_cons a)
  | case4 a b rest h ih => exact ih.cons_cons a

theorem mem_dropRepeats [LawfulBEq β] : k ∈ dropRepeats (· == ·) keys ↔ k ∈ keys := by
  fun_induction dropRepeats (· == ·) keys with
  | case1 => rfl
  | case2 a => rfl
  | case3 a b rest h ih =>
    obtain rfl := eq_of_beq h
    rw [ih]
    simp
  | case4 a b rest h ih => rw [List.mem_cons, ih, ← List.mem_cons]

theorem dropRepeats_cons_cons (same : α → α → Bool) (a b : α) (rest : List α) :
    dropRepeats same (a :: b :: rest) =
      if same a b then dropRepeats same (a :: rest) else a :: dropRepeats same (b :: rest) := by
  rw [dropRepeats]

/-- Whether neighbours repeat each other can be told by their keys. -/
theorem map_dropRepeats (f : α → β) (l : List α) :
    (dropRepeats (fun a b => f a == f b) l).map f = dropRepeats (· == ·) (l.map f) := by
  fun_induction dropRepeats (fun a b => f a == f b) l with
  | case1 => rw [List.map_nil, dropRepeats]
  | case2 a => rw [List.map_cons, List.map_nil, dropRepeats]
  | case3 a b rest h ih =>
    rw [ih, List.map_cons, List.map_cons, List.map_cons, dropRepeats_cons_cons, if_pos h]
  | case4 a b rest h ih =>
    rw [List.map_cons, ih, List.map_cons, List.map_cons, List.map_cons, dropRepeats_cons_cons,
      if_neg h]

/-- No key is left twice exactly if no key comes again after another one. -/
theorem nodup_dropRepeats_iff [LawfulBEq β] :
    (dropRepeats (· == ·) keys).Nodup ↔ ∀ x y, [x, y, x].Sublist keys → y = x := by
  -- Where a neighbour is dropped, it can stand for the kept one in whatever lies within the keys.
  fun_induction dropRepeats (· == ·) keys with
  | case1 => simp
  | case2 a =>
    refine iff_of_true (List.pairwise_singleton _ a) fun x y hsub => ?_
    exact absurd hsub.length_le (by simp)
  | case3 a b rest h ih =>
    obtain rfl := eq_of_beq h
    rw [ih]
    refine forall₂_congr fun x y => ⟨fun hkeys hsub => ?_, fun hkeys hsub => hkeys (hsub.cons a)⟩
    cases hsub with
    | cons _ hsub => exact hkeys hsub
    | cons_cons _ hsub =>
      cases hsub with
      | cons _ hsub => exact hkeys (hsub.cons_cons a)
      | cons_cons _ hsub => rfl
  | case4 a b rest h ih =>
    rw [List.nodup_cons, mem_dropRepeats, ih]
    constructor
    · rintro ⟨hmem, hkeys⟩ x y hsub
      cases hsub with
      | cons _ hsub => exact hkeys x y hsub
      | cons_cons _ hsub =>
        exact absurd (hsub.subset (by simp)) hmem
    · intro hkeys
      refine ⟨fun hmem => ?_, fun x y hsub => hkeys x y (hsub.cons a)⟩
      have hrest : a ∈ rest := (List.mem_cons.1 hmem).resolve_left fun heq => h (beq_iff_eq.2 heq)
      have hsame := hkeys a b ((List.singleton_sublist.2 hrest).cons_cons b |>.cons_cons a)
      exact h (beq_iff_eq.2 hsame.symm)

end Repeats

/-- Whether a path is unmounted no later than another one. -/
def deepestFirst (a b : String) : Bool :=
  Path.depth b ≤ Path.depth a

/-- The mount points at or below a directory. -/
def below (root : String) (points : List String) : List String :=
  points.filter (Path.isBelow root)

theorem under_eq (root : String) (points : List String) :
    under root points = dropRepeats Path.same ((below root points).mergeSort deepestFirst) :=
  rfl

theorem deepestFirst_iff {a b : String} :
    deepestFirst a b = true ↔ Path.depth b ≤ Path.depth a :=
  decide_eq_true_iff

theorem deepestFirst_trans (a b c : String) (hab : deepestFirst a b = true)
    (hbc : deepestFirst b c = true) : deepestFirst a c = true :=
  deepestFirst_iff.2 (Nat.le_trans (deepestFirst_iff.1 hbc) (deepestFirst_iff.1 hab))

theorem deepestFirst_total (a b : String) : (deepestFirst a b || deepestFirst b a) = true := by
  rw [Bool.or_eq_true, deepestFirst_iff, deepestFirst_iff]
  exact Nat.le_total _ _

theorem sorted_pairwise (l : List String) :
    (l.mergeSort deepestFirst).Pairwise fun a b => Path.depth b ≤ Path.depth a :=
  (List.pairwise_mergeSort deepestFirst_trans deepestFirst_total l).imp deepestFirst_iff.1

/-- Sorting leaves the mount points of one depth in their order. -/
theorem filter_depth_mergeSort (depth : Nat) (l : List String) :
    (l.mergeSort deepestFirst).filter (Path.depth · == depth) =
      l.filter (Path.depth · == depth) := by
  -- Those of one depth are in order already, so the sort is stable on them, and it adds no others.
  have hlevel : (l.filter (Path.depth · == depth)).Pairwise fun a b => deepestFirst a b = true := by
    refine List.pairwise_of_forall_mem_list fun a ha b hb => ?_
    have hdepth := beq_iff_eq.1 (List.mem_filter.1 ha).2
    have hdepth' := beq_iff_eq.1 (List.mem_filter.1 hb).2
    exact deepestFirst_iff.2 (Nat.le_of_eq (hdepth'.trans hdepth.symm))
  have hsub : (l.filter (Path.depth · == depth)).Sublist (l.mergeSort deepestFirst) :=
    List.sublist_mergeSort deepestFirst_trans deepestFirst_total hlevel List.filter_sublist
  have hfiltered := hsub.filter (Path.depth · == depth)
  rw [List.filter_filter] at hfiltered
  simp only [Bool.and_self] at hfiltered
  exact (hfiltered.eq_of_length ((List.mergeSort_perm l _).filter _).length_eq.symm).symm

theorem mem_mergeSort_below {p : String} :
    p ∈ (below root points).mergeSort deepestFirst ↔
      p ∈ points ∧ Path.parts root <+: Path.parts p := by
  rw [(List.mergeSort_perm _ _).mem_iff, below, List.mem_filter, Path.isBelow_iff]

theorem map_parts_under_eq (root : String) (points : List String) :
    (under root points).map Path.parts =
      dropRepeats (· == ·) (((below root points).mergeSort deepestFirst).map Path.parts) :=
  map_dropRepeats Path.parts _

/-- Only the components of the mount points count. -/
theorem map_parts_under (root : String) (points : List String) :
    (under root points).map Path.parts =
      dropRepeats (· == ·) (((points.map Path.parts).filter (Path.parts root).isPrefixOf).mergeSort
        fun a b => b.length ≤ a.length) := by
  have hkeys : (below root points).map Path.parts =
      (points.map Path.parts).filter (Path.parts root).isPrefixOf := by
    rw [List.filter_map]
    rfl
  rw [map_parts_under_eq, ← hkeys]
  exact congrArg (dropRepeats (· == ·)) (List.map_mergeSort fun a _ b _ => rfl)

theorem mem_of_mem_under {p : String} (h : p ∈ under root points) :
    p ∈ points ∧ Path.parts root <+: Path.parts p :=
  mem_mergeSort_below.1 ((dropRepeats_sublist _ _).subset h)

theorem exists_mem_under {p : String} (hp : p ∈ points) (hroot : Path.parts root <+: Path.parts p) :
    ∃ q ∈ under root points, Path.parts q = Path.parts p := by
  refine List.mem_map.1 ?_
  rw [map_parts_under, mem_dropRepeats, (List.mergeSort_perm _ _).mem_iff, List.mem_filter]
  exact ⟨List.mem_map_of_mem hp, List.isPrefixOf_iff_prefix.2 hroot⟩

theorem filter_depth_under_sublist (root : String) (points : List String) (depth : Nat) :
    ((under root points).filter (Path.depth · == depth)).Sublist points := by
  have hsub := (dropRepeats_sublist Path.same ((below root points).mergeSort deepestFirst)).filter
    (Path.depth · == depth)
  rw [filter_depth_mergeSort] at hsub
  exact hsub.trans (List.filter_sublist.trans List.filter_sublist)

theorem index_lt_of_depth_lt {i j : Nat} {a b : String} (ha : (under root points)[i]? = some a)
    (hb : (under root points)[j]? = some b) (h : Path.depth b < Path.depth a) : i < j := by
  have hsorted : (under root points).Pairwise fun a b => Path.depth b ≤ Path.depth a :=
    (sorted_pairwise _).sublist (dropRepeats_sublist _ _)
  obtain ⟨hi, rfl⟩ := List.getElem?_eq_some_iff.1 ha
  obtain ⟨hj, rfl⟩ := List.getElem?_eq_some_iff.1 hb
  rcases Nat.lt_trichotomy i j with hlt | rfl | hlt
  · exact hlt
  · exact absurd h (Nat.lt_irrefl _)
  · exact absurd (List.pairwise_iff_getElem.1 hsorted j i hj hi hlt) (Nat.not_le_of_lt h)

/-- All listed mount points at or below a directory are unmounted, however they are spelled, and
nothing else is; a path that only goes on with the name of the directory is not one of them. Those
of one depth are in the order in which they are listed, and each comes before all that it lies
below, so that the directory itself comes after whatever is mounted below it. Spelling any of the
paths in another way changes nothing but how they are spelled. -/
theorem unmounted_deepest_first (root : String) (points : List String) :
    (∀ p ∈ under root points, p ∈ points ∧ Path.parts root <+: Path.parts p) ∧
    (∀ p ∈ points, Path.parts root <+: Path.parts p →
      ∃ q ∈ under root points, Path.parts q = Path.parts p) ∧
    (∀ name t, (Text.pieces '/' root.toList).getLast? = some name → Path.isName name = true →
      t ≠ "" → t.toList.head? ≠ some '/' → root ++ t ∉ under root points) ∧
    (∀ depth, ((under root points).filter (Path.depth · == depth)).Sublist points) ∧
    (∀ (i j : Nat) (a b : String), (under root points)[i]? = some a →
      (under root points)[j]? = some b → Path.IsAncestor b a → i < j) ∧
    (∀ (i j : Nat) (a b : String), (under root points)[i]? = some a →
      (under root points)[j]? = some b → Path.parts b = Path.parts root →
        Path.parts a ≠ Path.parts root → i < j) ∧
    ∀ root' points', Relation.EqvGen Path.Respelled root root' →
      List.Forall₂ (Relation.EqvGen Path.Respelled) points points' →
        (under root' points').map Path.parts = (under root points).map Path.parts := by
  refine ⟨fun p => mem_of_mem_under, fun p => exists_mem_under, ?_, filter_depth_under_sublist root
    points, fun i j a b ha hb h => index_lt_of_depth_lt ha hb h.depth_lt, ?_, ?_⟩
  · intro name t hlast hname ht hslash hmem
    exact Path.not_prefix_append hlast hname ht hslash (mem_of_mem_under hmem).2
  · intro i j a b ha hb hroot hne
    have hwithin := (mem_of_mem_under (List.mem_of_getElem? ha)).2
    rw [← hroot] at hwithin hne
    exact index_lt_of_depth_lt ha hb (Path.IsAncestor.depth_lt ⟨hwithin, hne.symm⟩)
  · intro root' points' hroot hpoints
    have hparts : points'.map Path.parts = points.map Path.parts := by
      induction hpoints with
      | nil => rfl
      | cons h _ ih => rw [List.map_cons, List.map_cons, Path.parts_eq_of_eqvGen h, ih]
    rw [map_parts_under, map_parts_under, Path.parts_eq_of_eqvGen hroot, hparts]

/-- Where the file systems of a driver are mounted, and one of another driver. -/
def driverMounts : List String :=
  ["/run/nvidia/driver", "/run/nvidia/driver/dev", "/run/nvidia//driver/./dev/shm/",
    "/run/nvidia/driver/lib", "/run/nvidia/driver-other"]

theorem under_driverMounts :
    under "/run/nvidia/driver" driverMounts =
      ["/run/nvidia//driver/./dev/shm/", "/run/nvidia/driver/dev", "/run/nvidia/driver/lib",
        "/run/nvidia/driver"] := by
  have hbelow : below "/run/nvidia/driver" driverMounts =
      ["/run/nvidia/driver", "/run/nvidia/driver/dev", "/run/nvidia//driver/./dev/shm/",
        "/run/nvidia/driver/lib"] := by decide +kernel
  have hroot : Path.depth "/run/nvidia/driver" = 4 := by decide +kernel
  have hdev : Path.depth "/run/nvidia/driver/dev" = 5 := by decide +kernel
  have hshm : Path.depth "/run/nvidia//driver/./dev/shm/" = 6 := by decide +kernel
  have hlib : Path.depth "/run/nvidia/driver/lib" = 5 := by decide +kernel
  have hsorted : (below "/run/nvidia/driver" driverMounts).mergeSort deepestFirst =
      ["/run/nvidia//driver/./dev/shm/", "/run/nvidia/driver/dev", "/run/nvidia/driver/lib",
        "/run/nvidia/driver"] := by
    simp [hbelow, List.mergeSort, deepestFirst, hroot, hdev, hshm, hlib]
  rw [under_eq, hsorted, dropRepeats_cons_cons, if_neg (by decide +kernel), dropRepeats_cons_cons,
    if_neg (by decide +kernel), dropRepeats_cons_cons, if_neg (by decide +kernel), dropRepeats]

/-- The devices of a driver are unmounted before the driver, and the other driver stays mounted. -/
theorem devices_unmounted_before_driver :
    (∃ q ∈ under "/run/nvidia/driver" driverMounts,
      Path.parts q = Path.parts "/run/nvidia//driver/./dev/shm/") ∧
    "/run/nvidia/driver" ++ "-other" ∉ under "/run/nvidia/driver" driverMounts ∧
    ((under "/run/nvidia/driver" driverMounts)[0]? = some "/run/nvidia//driver/./dev/shm/" ∧
      (under "/run/nvidia/driver" driverMounts)[1]? = some "/run/nvidia/driver/dev" ∧ 0 < 1) ∧
    (under ("/run/nvidia/driver" ++ "/") driverMounts).map Path.parts =
      (under "/run/nvidia/driver" driverMounts).map Path.parts := by
  obtain ⟨-, hall, hsibling, -, horder, -, hspelling⟩ :=
    unmounted_deepest_first "/run/nvidia/driver" driverMounts
  have hshm : (under "/run/nvidia/driver" driverMounts)[0]? =
      some "/run/nvidia//driver/./dev/shm/" := by rw [under_driverMounts]; rfl
  have hdev : (under "/run/nvidia/driver" driverMounts)[1]? = some "/run/nvidia/driver/dev" := by
    rw [under_driverMounts]; rfl
  refine ⟨hall _ (by decide) (by decide +kernel), ?_, ⟨hshm, hdev, ?_⟩, ?_⟩
  · exact hsibling "driver".toList "-other" (by decide +kernel) (by decide) (by decide) (by decide)
  · exact horder _ _ _ _ hshm hdev ⟨by decide +kernel, by decide +kernel⟩
  · exact hspelling _ _ (.symm _ _ (.rel _ _ (.lastSlash (by decide))))
      (List.forall₂_same.2 fun _ _ => .refl _)

/-- Mount points of one depth are in the order in which they are listed. -/
theorem sublist_mergeSort_iff {depth : Nat} {level l : List String}
    (h : ∀ p ∈ level, Path.depth p = depth) :
    level.Sublist (l.mergeSort deepestFirst) ↔ level.Sublist l := by
  have hself : level.filter (Path.depth · == depth) = level :=
    List.filter_eq_self.2 fun p hp => beq_iff_eq.2 (h p hp)
  constructor
  · intro hsub
    have hlevel := hsub.filter (Path.depth · == depth)
    rw [hself, filter_depth_mergeSort] at hlevel
    exact hlevel.trans List.filter_sublist
  · intro hsub
    have hlevel := hsub.filter (Path.depth · == depth)
    rw [hself, ← filter_depth_mergeSort] at hlevel
    exact hlevel.trans List.filter_sublist

/-- A path comes again behind another one in the sorted list exactly if it does so in the given
list and the two have one depth. -/
theorem again_in_sorted_iff {p q p' : String} (hsame : Path.parts p' = Path.parts p) :
    [p, q, p'].Sublist ((below root points).mergeSort deepestFirst) ↔
      [p, q, p'].Sublist points ∧ Path.isBelow root p = true ∧ Path.isBelow root q = true ∧
        Path.depth q = Path.depth p := by
  have hdepth : Path.depth p' = Path.depth p := congrArg List.length hsame
  have hroot : Path.isBelow root p' = Path.isBelow root p := by
    rw [Path.isBelow, Path.isBelow, hsame]
  have hlevel (h : Path.depth q = Path.depth p) :
      ∀ r ∈ [p, q, p'], Path.depth r = Path.depth p := by
    simp [h, hdepth]
  constructor
  · intro hsub
    have hsorted := (sorted_pairwise (below root points)).sublist hsub
    have hq : Path.depth q = Path.depth p := by
      simp only [List.pairwise_cons, List.mem_cons, forall_eq_or_imp] at hsorted
      omega
    have hbelow := (sublist_mergeSort_iff (hlevel hq)).1 hsub
    have hmem (r : String) (hr : r ∈ [p, q, p']) : Path.isBelow root r = true :=
      (List.mem_filter.1 (hbelow.subset hr)).2
    exact ⟨hbelow.trans List.filter_sublist, hmem p (by simp), hmem q (by simp), hq⟩
  · rintro ⟨hsub, hp, hq, hdepth⟩
    refine (sublist_mergeSort_iff (hlevel hdepth)).2 ?_
    have hfilter := hsub.filter (Path.isBelow root)
    rwa [List.filter_eq_self.2 (by simp [hp, hq, hroot])] at hfilter

/-- No path is left twice exactly if none is listed again after another one of its depth. -/
theorem unmounted_once_iff (root : String) (points : List String) :
    ((under root points).map Path.parts).Nodup ↔
      ∀ p q p', [p, q, p'].Sublist points → Path.isBelow root p = true →
        Path.isBelow root q = true → Path.depth q = Path.depth p →
          Path.parts p' = Path.parts p → Path.parts q = Path.parts p := by
  rw [map_parts_under_eq, nodup_dropRepeats_iff]
  constructor
  · intro h p q p' hsub hp hq hdepth hsame
    refine h _ _ (List.sublist_map_iff.2 ⟨[p, q, p'], ?_, ?_⟩)
    · exact (again_in_sorted_iff hsame).2 ⟨hsub, hp, hq, hdepth⟩
    · rw [List.map_cons, List.map_cons, List.map_cons, hsame, List.map_nil]
  · intro h x y hsub
    obtain ⟨again, hagain, hkeys⟩ := List.sublist_map_iff.1 hsub
    obtain ⟨p, _, rfl, rfl, htail⟩ := List.map_eq_cons_iff.1 hkeys.symm
    obtain ⟨q, _, rfl, rfl, hlast⟩ := List.map_eq_cons_iff.1 htail
    obtain ⟨p', _, rfl, hsame, hnil⟩ := List.map_eq_cons_iff.1 hlast
    rw [List.map_eq_nil_iff.1 hnil] at hagain
    obtain ⟨hlisted, hp, hq, hdepth⟩ := (again_in_sorted_iff hsame).1 hagain
    exact h p q p' hlisted hp hq hdepth hsame

/-- A path that is mounted twice, with another one of its depth in between or not. -/
theorem mounted_again_unmounted_twice :
    ((under "/r" ["/r/a", "/r/a", "/r/b"]).map Path.parts).Nodup ∧
      ¬ ((under "/r" ["/r/a", "/r/b", "/r/a"]).map Path.parts).Nodup := by
  constructor
  · refine (unmounted_once_iff _ _).2 fun p q p' hsub _ _ _ hsame => ?_
    cases hsub.eq_of_length rfl
    exact absurd hsame (by decide +kernel)
  · intro hnodup
    have hsame := (unmounted_once_iff _ _).1 hnodup "/r/a" "/r/b" "/r/a" (List.Sublist.refl _)
      (by decide +kernel) (by decide +kernel) (by decide +kernel) rfl
    exact absurd hsame (by decide +kernel)

/-- A path may be unmounted twice. -/
theorem unmounted_twice :
    ¬ ∀ root points, ((under root points).map Path.parts).Nodup := by
  intro h
  have hbelow : below "/r" ["/r/a", "/r/b", "/r/a"] = ["/r/a", "/r/b", "/r/a"] := by decide +kernel
  have hsorted : ["/r/a", "/r/b", "/r/a"].mergeSort deepestFirst = ["/r/a", "/r/b", "/r/a"] :=
    List.mergeSort_of_pairwise (by decide +kernel)
  have hnodup := h "/r" ["/r/a", "/r/b", "/r/a"]
  rw [under_eq, hbelow, hsorted, dropRepeats_cons_cons, if_neg (by decide +kernel),
    dropRepeats_cons_cons, if_neg (by decide +kernel), dropRepeats] at hnodup
  exact absurd hnodup (by decide +kernel)

end DriverHandover.Mounts
