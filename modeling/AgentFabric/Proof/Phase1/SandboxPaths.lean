import AgentFabric.Construction.Phase1.Sandbox

namespace AgentFabric.Phase1
open PathText

namespace ResolvedPath

variable (path directory : ResolvedPath)

/-- The path equals another one or lies below it, name by name. -/
def LiesBelow : Prop := directory.names <+: path.names

/-- The path goes on with a name that only begins like the last name of the directory. -/
def PassesSibling : Prop :=
  ExtendsName (directory.names.map String.toList) (path.names.map String.toList)

theorem plain (path : ResolvedPath) : ∀ name ∈ path.names.map String.toList, '/' ∉ name := by
  intro name member
  obtain ⟨found, listed, rfl⟩ := List.mem_map.mp member
  exact (path.normal found listed).2.2.2

/-- Every text starts with a slash. -/
theorem slash_prefix_text (path : ResolvedPath) : ['/'] <+: path.text := by
  unfold text
  cases path.names with
  | nil => exact List.prefix_refl _
  | cons name rest => exact ⟨_, rfl⟩

/-- One text starts with another one when the path lies below the directory or passes a sibling of it. -/
theorem text_prefix_iff :
    directory.text <+: path.text ↔ path.LiesBelow directory ∨ path.PassesSibling directory := by
  have below : directory.names.map String.toList <+: path.names.map String.toList ↔
      path.LiesBelow directory :=
        List.prefix_map_iff_of_injective fun _ _ => String.toList_injective
  cases root : directory.names with
  | nil =>
      refine iff_of_true ?_ (.inl ?_)
      · rw [text, if_pos root]
        exact path.slash_prefix_text
      · rw [LiesBelow, root]
        exact List.nil_prefix
  | cons name rest =>
      have named : directory.names ≠ [] := by simp [root]
      rw [text, if_neg named]
      cases target : path.names with
      | nil =>
          refine iff_of_false ?_ ?_
          · rw [text, if_pos target, root, List.map_cons]
            intro begins
            have letters : name.toList ++ joined '/' (rest.map String.toList) <+: [] :=
              (List.cons_prefix_cons.mp begins).2
            have empty := (List.append_eq_nil_iff.mp (List.prefix_nil.mp letters)).1
            have member : name ∈ directory.names := root ▸ List.mem_cons_self
            exact (directory.normal name member).1 (String.toList_injective empty)
          · rintro (inside | sibling)
            · rw [LiesBelow, root, target] at inside
              exact absurd (List.prefix_nil.mp inside) (by simp)
            · rw [PassesSibling, target] at sibling
              exact not_extendsName_nil _ sibling
      | cons other others =>
          have otherNamed : path.names ≠ [] := by simp [target]
          rw [text, if_neg otherNamed, joined_prefix_iff _ _ directory.plain path.plain, below]
          rfl

end ResolvedPath

namespace Sandbox

variable {system : FileSystem}

theorem startsWithAny_iff (paths : List String) (target : ResolvedPath) :
    startsWithAny system paths target = true ↔ ∃ path ∈ paths,
      target.LiesBelow (system.resolve path) ∨ target.PassesSibling (system.resolve path) := by
  simp only [startsWithAny, List.any_eq_true, List.isPrefixOf_iff_prefix,
    ResolvedPath.text_prefix_iff]

/-- The call reads only below allowed paths and never below a denied one. -/
def ReadsOnlyAllowed (system : FileSystem) (policy : SandboxPolicy) (path : String) : Prop :=
  ∀ target ∈ (readFile system policy path).2,
    (∃ allowed ∈ policy.allowedFilesystemPaths, target.LiesBelow (system.resolve allowed)) ∧
      ∀ denied ∈ policy.deniedFilesystemPrefixes, ¬ target.LiesBelow (system.resolve denied)

/-- The path lies below no allowed path but passes a sibling of one, and it neither lies below a denied
path nor passes a sibling of one. -/
def OnlyPassesSibling (system : FileSystem) (policy : SandboxPolicy) (path : String) : Prop :=
  (∃ allowed ∈ policy.allowedFilesystemPaths,
    (system.resolve path).PassesSibling (system.resolve allowed)) ∧
  (∀ allowed ∈ policy.allowedFilesystemPaths,
    ¬ (system.resolve path).LiesBelow (system.resolve allowed)) ∧
  ∀ denied ∈ policy.deniedFilesystemPrefixes,
    ¬ (system.resolve path).LiesBelow (system.resolve denied) ∧
      ¬ (system.resolve path).PassesSibling (system.resolve denied)

/-- A call reads nothing but its resolved path, and it reads that when the checks of the texts pass. -/
theorem mem_reads_iff (policy : SandboxPolicy) (path : String) (target : ResolvedPath) :
    target ∈ (readFile system policy path).2 ↔ target = system.resolve path ∧
      startsWithAny system policy.deniedFilesystemPrefixes (system.resolve path) = false ∧
      startsWithAny system policy.allowedFilesystemPaths (system.resolve path) = true := by
  unfold readFile
  dsimp only
  cases startsWithAny system policy.deniedFilesystemPrefixes (system.resolve path) with
  | true => simp
  | false =>
      cases startsWithAny system policy.allowedFilesystemPaths (system.resolve path) with
      | true => simp
      | false => simp

/-- No call reads below a denied path. -/
theorem not_liesBelow_denied {policy : SandboxPolicy} {path : String} {target : ResolvedPath}
    (read : target ∈ (readFile system policy path).2) (denied : String)
    (listed : denied ∈ policy.deniedFilesystemPrefixes) :
    ¬ target.LiesBelow (system.resolve denied) := by
  obtain ⟨rfl, passes, _⟩ := (mem_reads_iff policy path target).mp read
  intro inside
  have stopped : startsWithAny system policy.deniedFilesystemPrefixes (system.resolve path) = true :=
    (startsWithAny_iff _ _).mpr ⟨denied, listed, .inl inside⟩
  cases passes.symm.trans stopped

/-- A call never reads below a denied path, and it reads only below allowed paths exactly when its path
does not only pass a sibling of one. -/
theorem readFile_contained_iff (system : FileSystem) (policy : SandboxPolicy) (path : String) :
    (∀ target ∈ (readFile system policy path).2, ∀ denied ∈ policy.deniedFilesystemPrefixes,
      ¬ target.LiesBelow (system.resolve denied)) ∧
    (ReadsOnlyAllowed system policy path ↔ ¬ OnlyPassesSibling system policy path) := by
  refine ⟨fun target read denied listed => not_liesBelow_denied read denied listed, ?_, ?_⟩
  · rintro contained ⟨⟨allowed, listed, sibling⟩, outside, free⟩
    have passes : startsWithAny system policy.deniedFilesystemPrefixes (system.resolve path) =
        false := by
      rw [← Bool.not_eq_true, startsWithAny_iff]
      rintro ⟨denied, member, inside | beside⟩
      · exact (free denied member).1 inside
      · exact (free denied member).2 beside
    have admitted := (startsWithAny_iff policy.allowedFilesystemPaths _).mpr
      ⟨allowed, listed, .inr sibling⟩
    have read := (mem_reads_iff policy path _).mpr ⟨rfl, passes, admitted⟩
    obtain ⟨⟨other, member, inside⟩, _⟩ := contained _ read
    exact outside other member inside
  · intro direct target read
    refine ⟨?_, fun denied listed => not_liesBelow_denied read denied listed⟩
    obtain ⟨rfl, passes, admitted⟩ := (mem_reads_iff policy path target).mp read
    by_contra outside
    push Not at outside
    obtain ⟨allowed, listed, inside | sibling⟩ := (startsWithAny_iff _ _).mp admitted
    · exact outside allowed listed inside
    · refine direct ⟨⟨allowed, listed, sibling⟩, outside, ?_⟩
      intro denied member
      rw [← Bool.not_eq_true, startsWithAny_iff] at passes
      push Not at passes
      exact passes denied member

/-- The resolved paths of a file system without links, with the root as the working directory. -/
def lexically (path : String) : ResolvedPath where
  names := ((PosixPath.parts path).foldl PosixPath.enter []).filter fun name =>
    name ≠ "" ∧ name ≠ "." ∧ name ≠ ".." ∧ '/' ∉ name.toList
  normal := fun _ member => of_decide_eq_true (List.mem_filter.mp member).2

def plainFiles : FileSystem where
  resolve := lexically
  readText := fun _ => .ok "secret"

/-- The policy that allows one directory. -/
def appPolicy : SandboxPolicy := { allowedFilesystemPaths := ["/data/app"] }

/-- A directory whose name begins like the allowed one is read. -/
theorem sibling_directory_is_read :
    (readFile plainFiles appPolicy "/data/app-secrets/key.pem").1 = .ok "secret" ∧
      ¬ ReadsOnlyAllowed plainFiles appPolicy "/data/app-secrets/key.pem" := by
  have path : (lexically "/data/app-secrets/key.pem").names = ["data", "app-secrets", "key.pem"] := by
    decide
  have directory : (lexically "/data/app").names = ["data", "app"] := by decide
  have read : lexically "/data/app-secrets/key.pem" ∈
      (readFile plainFiles appPolicy "/data/app-secrets/key.pem").2 := by
    apply (mem_reads_iff _ _ _).mpr
    exact ⟨rfl, by decide, by decide⟩
  refine ⟨by decide, ?_⟩
  intro contained
  obtain ⟨⟨allowed, listed, inside⟩, _⟩ := contained _ read
  rw [List.mem_singleton.mp listed, ResolvedPath.LiesBelow] at inside
  change (lexically "/data/app").names <+: (lexically "/data/app-secrets/key.pem").names at inside
  rw [path, directory] at inside
  exact absurd inside (by decide)

end Sandbox

end AgentFabric.Phase1
