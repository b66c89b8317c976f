import Mathlib
import GridServe.Artifact.Sweep
import GridServe.Artifact.Pipeline

namespace GridServe

theorem endsWith_iff_isSuffix {s pat : String} : s.endsWith pat ↔ pat.toList <:+ s.toList := by
  simp [← String.endsWith_toSlice, String.Slice.endsWith_string_iff]

namespace Sweep

variable {pfx : String}

theorem isArtifact_iff (name pfx : String) :
    isArtifact name pfx = true ↔ pfx.toList <+: name.toList ∧
      (".png".toList <:+ name.toList ∨ ".png.partial".toList <:+ name.toList) := by
  simp [isArtifact, endsWith_iff_isSuffix]

/-- The sweep removes the regular files whose name is text that starts with the prefix and ends
with one of the two image suffixes. -/
theorem removes_iff (pfx : String) (e : DirEntry) :
    removes pfx e = true ↔ e.isFile = true ∧ ∃ name, Utf8.decode? e.name = some name ∧
      pfx.toList <+: name.toList ∧
      (".png".toList <:+ name.toList ∨ ".png.partial".toList <:+ name.toList) := by
  unfold removes
  cases Utf8.decode? e.name <;> simp [isArtifact_iff]

theorem visit_quiet (pfx : String) (e : DirEntry) :
    visit pfx (Listed.quiet e) = .ok (removes pfx e) := by
  cases decoded : Utf8.decode? e.name with
  | none => simp [visit, removes, Listed.quiet, decoded]
  | some name =>
    cases file : e.isFile <;> cases matched : isArtifact name pfx <;>
      simp [visit, removes, Listed.quiet, decoded, file, matched]

theorem visit_eq_ok {l : Listed} {removed : Bool} (visited : visit pfx l = .ok removed) :
    removed = removes pfx l.entry := by
  unfold visit at visited
  unfold removes
  -- each call that fails ends the visit with an error, so a success got past every one of them
  -- and what is left is the test `removes` makes
  split at visited
  · cases visited
  · split at visited <;> rename_i decoded
    · simp_all
    · split at visited
      · cases visited
      · split at visited <;> rename_i matched
        · split at visited
          · cases visited
          · simp_all
        · simp_all

theorem loop_cons_of_ok {l : Listed} {removed : Bool} (visited : visit pfx l = .ok removed)
    (rest : List Listed) :
    loop pfx (l :: rest) = ((loop pfx rest).1.map (· + if removed then 1 else 0),
      if removed then (loop pfx rest).2 else l.entry :: (loop pfx rest).2) := by
  simp [loop, visited]

theorem loop_cons_of_error {l : Listed} {e : IoError} (failed : visit pfx l = .error e)
    (rest : List Listed) :
    loop pfx (l :: rest) = (.error e, l.entry :: rest.map (·.entry)) := by
  simp [loop, failed]

theorem loop_of_ok (ls : List Listed) (passes : ∀ l ∈ ls, ∃ removed, visit pfx l = .ok removed) :
    loop pfx ls = (.ok ((ls.map (·.entry)).filter (removes pfx)).length,
      (ls.map (·.entry)).filter fun e => !removes pfx e) := by
  induction ls with
  | nil => rfl
  | cons l rest ih =>
    obtain ⟨removed, visited⟩ := passes l List.mem_cons_self
    rw [loop_cons_of_ok visited, ih fun x member => passes x (List.mem_cons_of_mem l member),
      visit_eq_ok visited]
    cases removed : removes pfx l.entry <;> simp [removed, Except.map]

/-- The first failing call ends the sweep with its error: the entries before it that the sweep
removes are gone, and it and the entries after it are left as they were. -/
theorem loop_of_error (before : List Listed) {l : Listed} {e : IoError}
    (passes : ∀ x ∈ before, ∃ removed, visit pfx x = .ok removed) (failed : visit pfx l = .error e)
    (after : List Listed) :
    loop pfx (before ++ l :: after) = (.error e,
      (before.map (·.entry)).filter (fun e => !removes pfx e) ++
        l.entry :: after.map (·.entry)) := by
  induction before with
  | nil => exact loop_cons_of_error failed after
  | cons x before ih =>
    obtain ⟨removed, visited⟩ := passes x List.mem_cons_self
    rw [List.cons_append, loop_cons_of_ok visited,
      ih fun y member => passes y (List.mem_cons_of_mem x member), visit_eq_ok visited]
    cases removed : removes pfx x.entry <;> simp [removed, Except.map]

theorem run_directory (pfx : String) (es : List DirEntry) :
    run (.directory es) pfx = .ok (entries pfx es) := by
  have quiet : ∀ l ∈ es.map Listed.quiet, ∃ removed, visit pfx l = .ok removed := by
    simp [visit_quiet]
  simp [run, loop_of_ok _ quiet, entries, Function.comp_def, Listed.quiet, Except.map]

theorem removes_entryOf_file (pfx name content : String) :
    removes pfx (entryOf name (.file content)) = isArtifact name pfx := by
  simp [removes, entryOf, Utf8.decode?_encode]

theorem isArtifact_artifactName (pfx id : String) :
    isArtifact (Pipeline.artifactName pfx id) pfx = true := by
  rw [isArtifact_iff]
  refine ⟨⟨(id ++ ".png").toList, ?_⟩, .inl ⟨(pfx ++ id).toList, ?_⟩⟩ <;>
    simp [Pipeline.artifactName]

/-- The partial name ends in `.png.partial` whatever the prefix ends in: the suffix test never
has to tell the two names apart. -/
theorem isArtifact_partialName (pfx id : String) :
    isArtifact (partialName (Pipeline.artifactName pfx id)) pfx = true := by
  rw [isArtifact_iff]
  refine ⟨⟨(id ++ ".png.partial").toList, ?_⟩, .inr ⟨(pfx ++ id).toList, ?_⟩⟩ <;>
    simp [partialName, Pipeline.artifactName]

theorem removes_written (pfx id content : String) :
    removes pfx (entryOf (Pipeline.artifactName pfx id) (.file content)) = true ∧
      removes pfx (entryOf (partialName (Pipeline.artifactName pfx id)) (.file content)) = true := by
  rw [removes_entryOf_file, removes_entryOf_file]
  exact ⟨isArtifact_artifactName pfx id, isArtifact_partialName pfx id⟩

theorem slash_not_mem_names {pfx id : String} (pfxOne : '/' ∉ pfx.toList)
    (idOne : '/' ∉ id.toList) :
    '/' ∉ (Pipeline.artifactName pfx id).toList ∧
      '/' ∉ (partialName (Pipeline.artifactName pfx id)).toList := by
  simp [Pipeline.artifactName, partialName, pfxOne, idOne]

/-- Sweeping the image directory. Without I/O errors a missing directory is created, and of a
directory exactly the regular files whose name is text, starts with the prefix and ends with
`.png` or `.png.partial` are removed and counted. For a prefix without a path separator, the
files the pipeline writes, finished or partial, are entries of the directory that the sweep
removes. The first failing call ends the sweep with its error, and what was removed before it
stays removed. -/
theorem sweep_removes_leftover_images (pfx : String) :
    run .missing pfx = .ok (0, []) ∧
    (∀ es, run (.directory es) pfx =
      .ok ((es.filter (removes pfx)).length, es.filter fun e => !removes pfx e)) ∧
    (∀ ls, (∀ l ∈ ls, ∃ removed, visit pfx l = .ok removed) →
      loop pfx ls = (.ok ((ls.map (·.entry)).filter (removes pfx)).length,
        (ls.map (·.entry)).filter fun e => !removes pfx e)) ∧
    (∀ e, removes pfx e = true ↔ e.isFile = true ∧ ∃ name, Utf8.decode? e.name = some name ∧
      pfx.toList <+: name.toList ∧
      (".png".toList <:+ name.toList ∨ ".png.partial".toList <:+ name.toList)) ∧
    (∀ id content, '/' ∉ pfx.toList → '/' ∉ id.toList →
      ∀ name ∈ [Pipeline.artifactName pfx id, partialName (Pipeline.artifactName pfx id)],
        '/' ∉ name.toList ∧ isArtifact name pfx = true ∧
          removes pfx (entryOf name (.file content)) = true) ∧
    (∀ before l after e, (∀ x ∈ before, ∃ removed, visit pfx x = .ok removed) →
      visit pfx l = .error e →
      loop pfx (before ++ l :: after) = (.error e,
        (before.map (·.entry)).filter (fun e => !removes pfx e) ++
          l.entry :: after.map (·.entry))) := by
  refine ⟨rfl, run_directory pfx, loop_of_ok, removes_iff pfx, ?_,
    fun before _ after _ passes failed => loop_of_error before passes failed after⟩
  intro id content pfxOne idOne name written
  obtain ⟨finished, partly⟩ := slash_not_mem_names pfxOne idOne
  simp only [List.mem_cons, List.not_mem_nil, or_false] at written
  rcases written with rfl | rfl
  · exact ⟨finished, isArtifact_artifactName pfx id, (removes_written pfx id content).1⟩
  · exact ⟨partly, isArtifact_partialName pfx id, (removes_written pfx id content).2⟩

/-- A refused removal midway: the image before it is already gone, the other file and the rest
of the listing stay. -/
theorem sweep_refused_removal_keeps_earlier :
    (∀ x ∈ [Listed.quiet (entryOf "output_1.png" (.file "x")),
        Listed.quiet (entryOf "notes.txt" (.file "x"))],
      ∃ removed, visit "output_" x = .ok removed) ∧
    visit "output_" ⟨entryOf "output_2.png.partial" (.file "x"),
      { remove := some .permissionDenied }⟩ = .error .permissionDenied ∧
    loop "output_" [Listed.quiet (entryOf "output_1.png" (.file "x")),
        Listed.quiet (entryOf "notes.txt" (.file "x")),
        ⟨entryOf "output_2.png.partial" (.file "x"), { remove := some .permissionDenied }⟩,
        Listed.quiet (entryOf "output_3.png" (.file "x"))] =
      (.error .permissionDenied, [entryOf "notes.txt" (.file "x"),
        entryOf "output_2.png.partial" (.file "x"), entryOf "output_3.png" (.file "x")]) := by
  have passes : ∀ x ∈ [Listed.quiet (entryOf "output_1.png" (.file "x")),
      Listed.quiet (entryOf "notes.txt" (.file "x"))],
      ∃ removed, visit "output_" x = .ok removed := by
    simp [visit_quiet]
  have refused : visit "output_" ⟨entryOf "output_2.png.partial" (.file "x"),
      { remove := some .permissionDenied }⟩ = .error .permissionDenied := by
    simp [visit, entryOf, Utf8.decode?_encode, isArtifact_iff]
    decide
  refine ⟨passes, refused, ?_⟩
  have first : removes "output_" (entryOf "output_1.png" (.file "x")) = true := by
    rw [removes_entryOf_file, isArtifact_iff]
    decide
  have other : removes "output_" (entryOf "notes.txt" (.file "x")) = false := by
    rw [removes_entryOf_file, Bool.eq_false_iff, ne_eq, isArtifact_iff]
    decide
  have swept := (sweep_removes_leftover_images "output_").2.2.2.2.2 _ _
    [Listed.quiet (entryOf "output_3.png" (.file "x"))] _ passes refused
  simp only [List.cons_append, List.nil_append] at swept
  rw [swept]
  simp [Listed.quiet, first, other]

end Sweep

namespace FileTree

theorem eq_append_getLast {q ps : List String} (long : q.length = ps.length + 1)
    (front : q.take ps.length = ps) : ∃ a, q = ps ++ [a] ∧ q.getLast? = some a := by
  obtain ⟨a, last⟩ : ∃ a, q.drop ps.length = [a] :=
    List.length_eq_one_iff.mp (by simp [long])
  have split : q = ps ++ [a] := by rw [← List.take_append_drop ps.length q, front, last]
  exact ⟨a, split, by simp [split]⟩

theorem children_removeIn (t : FileTree) (ps : List String) (name : String) :
    (t.removeIn (.work ps) name).children ps = (t.children ps).filter (·.1 != name) := by
  simp only [removeIn, Place.child, children, List.filterMap_filter, List.filter_filterMap]
  apply List.filterMap_congr
  rintro ⟨q, n⟩ -
  by_cases listed : (decide (q.length = ps.length + 1) && q.take ps.length == ps) = true
  · simp only [Bool.and_eq_true, decide_eq_true_eq, beq_iff_eq] at listed
    obtain ⟨a, rfl, last⟩ := eq_append_getLast listed.1 listed.2
    by_cases same : a = name <;> simp [same, Option.filter]
  · simp [listed]

theorem children_foldl_removeIn (t : FileTree) (ps : List String) (gone : List (String × Node)) :
    (gone.foldl (fun t c => t.removeIn (.work ps) c.1) t).children ps =
      (t.children ps).filter fun c => c.1 ∉ gone.map Prod.fst := by
  induction gone generalizing t with
  | nil => simp
  | cons g gone ih =>
    rw [List.foldl_cons, ih, children_removeIn, List.filter_filter]
    congr 1
    funext c
    by_cases same : c.1 = g.1
    · simp [same]
    · have differ : (c.1 != g.1) = true := bne_iff_ne.mpr same
      simp only [List.map_cons, List.mem_cons, same, false_or, differ, Bool.and_true]

theorem readDir_children {t : FileTree} {path : String} {ps : List String}
    {found : List (String × Node)} (listed : t.readDir path = .ok (.work ps, found)) :
    found = t.children ps := by
  unfold readDir at listed
  split at listed
  · cases listed
  · cases listed
  · split at listed
    · split at listed
      next qs work =>
        simp only [Except.ok.injEq, Prod.mk.injEq] at listed
        obtain ⟨same, rfl⟩ := listed
        rw [work] at same
        cases same
        rfl
      next other =>
        simp only [Except.ok.injEq, Prod.mk.injEq] at listed
        exact absurd listed.1 (other ps)
    · cases listed

end FileTree

namespace Sweep

theorem tree_eq_ok {t t' : FileTree} {dir pfx : String} {n : Nat}
    (swept : tree t dir pfx = .ok (n, t')) :
    ∃ t₀ place found kept, t.createDirAll dir = .ok t₀ ∧ t₀.readDir dir = .ok (place, found) ∧
      run (.directory (found.map fun c => entryOf c.1 c.2)) pfx = .ok (n, kept) ∧
      t' = (found.filter fun c => entryOf c.1 c.2 ∉ kept).foldl
        (fun t c => t.removeIn place c.1) t₀ := by
  unfold tree at swept
  cases created : t.createDirAll dir with
  | error e => simp [created, bind, Except.bind] at swept
  | ok t₀ =>
    cases listed : t₀.readDir dir with
    | error e => simp [created, listed, bind, Except.bind] at swept
    | ok listing =>
      obtain ⟨place, found⟩ := listing
      simp only [created, listed, run_directory, bind, Except.bind, pure, Except.pure,
        Except.ok.injEq, Prod.mk.injEq] at swept
      obtain ⟨rfl, rfl⟩ := swept
      exact ⟨t₀, place, found, _, rfl, listed, run_directory _ _, rfl⟩

theorem tree_children {t t' : FileTree} {dir pfx : String} {n : Nat}
    (swept : tree t dir pfx = .ok (n, t')) :
    ∃ t₀ place, t.createDirAll dir = .ok t₀ ∧ (t₀.readDir dir).map Prod.fst = .ok place ∧
      ∀ ps, place = .work ps →
        n = ((t₀.children ps).filter fun c => removes pfx (entryOf c.1 c.2)).length ∧
        t'.children ps = (t₀.children ps).filter fun c =>
          c.1 ∉ ((t₀.children ps).filter fun g => removes pfx (entryOf g.1 g.2)).map Prod.fst := by
  obtain ⟨t₀, place, found, kept, created, listed, ran, rfl⟩ := tree_eq_ok swept
  refine ⟨t₀, place, created, by simp [listed, Except.map], ?_⟩
  rintro ps rfl
  have children := FileTree.readDir_children listed
  -- `run` keeps exactly the entries it does not remove, so a child's entry is missing from what
  -- it keeps exactly when the sweep removes the child
  rw [run_directory] at ran
  simp only [entries, Except.ok.injEq, Prod.mk.injEq] at ran
  obtain ⟨count, kept_eq⟩ := ran
  have gone : (found.filter fun c => entryOf c.1 c.2 ∉ kept) =
      found.filter fun c => removes pfx (entryOf c.1 c.2) := by
    subst kept_eq
    apply List.filter_congr
    intro c member
    have listedEntry : entryOf c.1 c.2 ∈ found.map fun c => entryOf c.1 c.2 :=
      List.mem_map_of_mem member
    cases removed : removes pfx (entryOf c.1 c.2) <;> simp [listedEntry, removed]
  refine ⟨?_, ?_⟩
  · rw [← count, ← children, List.filter_map, List.length_map]
    rfl
  · rw [gone, FileTree.children_foldl_removeIn, ← children]

/-- After the start-up sweep no child of the image directory is an entry the sweep removes; in
particular no image of an earlier run with the same prefix is left, finished or partial. -/
theorem tree_leaves_no_leftover {t t' : FileTree} {dir pfx : String} {n : Nat}
    (swept : tree t dir pfx = .ok (n, t')) :
    ∃ t₀ place, t.createDirAll dir = .ok t₀ ∧ (t₀.readDir dir).map Prod.fst = .ok place ∧
      ∀ ps, place = .work ps →
        (∀ c ∈ t'.children ps, c ∈ t₀.children ps ∧ removes pfx (entryOf c.1 c.2) = false) ∧
        ∀ id content, (Pipeline.artifactName pfx id, .file content) ∉ t'.children ps ∧
          (partialName (Pipeline.artifactName pfx id), .file content) ∉ t'.children ps := by
  obtain ⟨t₀, place, created, listed, after⟩ := tree_children swept
  refine ⟨t₀, place, created, listed, fun ps work => ?_⟩
  obtain ⟨-, children⟩ := after ps work
  have kept : ∀ c ∈ t'.children ps, c ∈ t₀.children ps ∧ removes pfx (entryOf c.1 c.2) = false := by
    intro c member
    rw [children, List.mem_filter] at member
    obtain ⟨before, unnamed⟩ := member
    refine ⟨before, ?_⟩
    -- a removed child would have put its own name among the removed names
    cases removed : removes pfx (entryOf c.1 c.2)
    · rfl
    · have named : c.1 ∈ ((t₀.children ps).filter fun g => removes pfx (entryOf g.1 g.2)).map
          Prod.fst := List.mem_map_of_mem (List.mem_filter.mpr ⟨before, removed⟩)
      simp [named] at unnamed
  refine ⟨kept, fun id content => ⟨fun member => ?_, fun member => ?_⟩⟩
  · have swept := (kept _ member).2
    rw [(removes_written pfx id content).1] at swept
    cases swept
  · have swept := (kept _ member).2
    rw [(removes_written pfx id content).2] at swept
    cases swept

end Sweep

end GridServe
