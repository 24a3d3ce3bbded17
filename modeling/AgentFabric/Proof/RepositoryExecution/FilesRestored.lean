import AgentFabric.Construction.RepositoryExecution.FileRestoration

namespace AgentFabric.RepositoryExecution
open Sorting PosixPath

theorem validateRelativePath_ok {value : String} {place : List String}
    (valid : validateRelativePath value = .ok place) : place = parts value := by
  rw [validateRelativePath] at valid
  split at valid
  · cases valid
  · exact (Except.ok.inj valid).symm

end AgentFabric.RepositoryExecution

namespace AgentFabric.FileRestoration
open Sorting PosixPath RepositoryExecution
open BuildWorkers (Backups BuildPlan BuildResult Factory)
open Renovation (TenantContext)

/-- A path that is not below a directory. -/
def Outside (destination place : List String) : Prop := ¬ destination <+: place

theorem Outside.ne {destination place : List String} (outside : Outside destination place)
    (below : List String) : place ≠ destination ++ below := by
  intro same
  exact outside (same ▸ List.prefix_append _ _)

/-- The files are the same outside a directory. -/
def SameOutside (destination : List String) (files after : Files) : Prop :=
  ∀ place, Outside destination place → after place = files place

theorem map_eq_ok_iff {Value Other : Type} (answer : Except PyError Value) (f : Value → Other)
    (result : Other) : answer.map f = .ok result ↔ ∃ value, answer = .ok value ∧ f value = result := by
  cases answer with
  | error error => simp [Except.map]
  | ok value => simp [Except.map]

namespace ArtifactWriter

variable {sha256 : String → String} {faults : Faults} {destination : List String}
  (contents : List (String × String))

/-- The files that the loop has written are missing before, so that their removal restores the files
whatever the loop has answered. -/
theorem unlink_written (files : Files) :
    (writeFiles sha256 faults destination contents files).2.1.reverse.foldl Files.unlink
      (writeFiles sha256 faults destination contents files).2.2 = files := by
  induction contents generalizing files with
  | nil => rfl
  | cons file rest ih =>
      obtain ⟨relativePath, content⟩ := file
      unfold writeFiles
      split
      · rfl
      · rename_i place valid
        split
        · rfl
        · split
          · rename_i bytes present
            split
            · rfl
            · split
              · rfl
              · exact ih files
          · rename_i missing
            have restored := ih (files.write (destination ++ place) content)
            simp only [List.reverse_cons, List.foldl_append, List.foldl_cons, List.foldl_nil,
              restored]
            exact Files.unlink_write missing

variable {place : List String}

/-- The loop changes files of its list only. -/
theorem writeFiles_frame (files : Files)
    (other : ∀ file ∈ contents, place ≠ destination ++ parts file.1) :
    (writeFiles sha256 faults destination contents files).2.2 place = files place := by
  induction contents generalizing files with
  | nil => rfl
  | cons file rest ih =>
      obtain ⟨relativePath, content⟩ := file
      have others := fun later member => other later (.tail _ member)
      unfold writeFiles
      split
      · rfl
      · rename_i found valid
        have here := other _ (.head _)
        rw [← validateRelativePath_ok valid] at here
        split
        · rfl
        · split
          · split
            · rfl
            · split
              · rfl
              · exact ih files others
          · exact (ih _ others).trans (Files.write_of_ne here)

/-- A loop that returns has met valid paths only. -/
theorem writeFiles_valid {contents : List (String × String)} {files : Files}
    {hashes : List (String × String)}
    (returned : (writeFiles sha256 faults destination contents files).1 = .ok hashes) :
    ∀ file ∈ contents, validateRelativePath file.1 = .ok (parts file.1) := by
  induction contents generalizing files hashes with
  | nil => exact fun file member => absurd member List.not_mem_nil
  | cons file rest ih =>
      obtain ⟨relativePath, content⟩ := file
      unfold writeFiles at returned
      split at returned
      · cases returned
      rename_i place valid
      have here : validateRelativePath relativePath = .ok (parts relativePath) := by
        rw [valid, validateRelativePath_ok valid]
      split at returned
      · cases returned
      have later : ∃ others after,
          (writeFiles sha256 faults destination rest after).1 = .ok others := by
        split at returned
        · split at returned
          · cases returned
          · split at returned
            · cases returned
            · obtain ⟨others, found, _⟩ := (map_eq_ok_iff _ _ _).mp returned
              exact ⟨others, _, found⟩
        · obtain ⟨others, found, _⟩ := (map_eq_ok_iff _ _ _).mp returned
          exact ⟨others, _, found⟩
      obtain ⟨others, after, found⟩ := later
      intro file member
      rcases List.mem_cons.mp member with rfl | inRest
      · exact here
      · exact ih found file inRest

/-- The file of the plan that is there with the planned text is kept. -/
theorem writeFiles_identical {path content : String} {bytes : ByteArray}
    {files : Files} (valid : validateRelativePath path = .ok place) (able : faults path = none)
    (present : files (destination ++ place) = some bytes)
    (identical : Files.decode bytes = .ok content) :
    writeFiles sha256 faults destination [(path, content)] files =
      (.ok [(path, sha256 content)], [], files) := by
  rw [writeFiles, valid]
  dsimp only
  rw [able]
  dsimp only
  rw [present]
  dsimp only
  rw [identical]
  dsimp only
  rw [if_neg (fun other => other rfl)]
  rfl

/-- A valid path is removed before the others. -/
theorem removeFiles_cons {path : String} (valid : validateRelativePath path = .ok (parts path))
    (rest : List String) (files : Files) :
    ∃ next : Files, next (destination ++ parts path) = none ∧
      (∀ place, place ≠ destination ++ parts path → next place = files place) ∧
      (removeFiles destination (path :: rest) files).2 = (removeFiles destination rest next).2 ∧
      ∀ removed, (removeFiles destination rest next).1 = .ok removed →
        ∃ listed, (removeFiles destination (path :: rest) files).1 = .ok listed := by
  rw [removeFiles, valid]
  dsimp only
  cases present : files (destination ++ parts path) with
  | some bytes =>
      refine ⟨files.unlink (destination ++ parts path), Files.unlink_self _ _,
        fun place other => Files.unlink_of_ne other, rfl, ?_⟩
      intro removed answered
      exact ⟨path :: removed, by rw [answered]; rfl⟩
  | none => exact ⟨files, present, fun _ _ => rfl, rfl, fun removed answered => ⟨removed, answered⟩⟩

/-- The removal of valid paths leaves none of their files and all others. -/
theorem removeFiles_valid {paths : List String} (files : Files)
    (valid : ∀ path ∈ paths, validateRelativePath path = .ok (parts path)) :
    (∃ removed, (removeFiles destination paths files).1 = .ok removed) ∧
      (∀ path ∈ paths, (removeFiles destination paths files).2 (destination ++ parts path) = none) ∧
        ∀ place, (∀ path ∈ paths, place ≠ destination ++ parts path) →
          (removeFiles destination paths files).2 place = files place := by
  induction paths generalizing files with
  | nil => exact ⟨⟨[], rfl⟩, fun path member => absurd member List.not_mem_nil, fun _ _ => rfl⟩
  | cons path rest ih =>
      obtain ⟨next, gone, elsewhere, same, answers⟩ :=
        @removeFiles_cons destination path (valid path (.head _)) rest files
      obtain ⟨⟨removed, answered⟩, missing, kept⟩ :=
        ih next fun other member => valid other (.tail _ member)
      rw [same]
      refine ⟨answers removed answered, ?_, ?_⟩
      · intro other member
        by_cases again : ∃ twin ∈ rest, destination ++ parts other = destination ++ parts twin
        · obtain ⟨twin, listed, twins⟩ := again
          rw [twins]
          exact missing twin listed
        · push Not at again
          rcases List.mem_cons.mp member with rfl | later
          · rw [kept _ again, gone]
          · exact missing other later
      · intro place different
        rw [kept place fun other member => different other (List.mem_cons_of_mem _ member)]
        exact elsewhere place (different path (.head _))

/-- The removal changes files below its directory only. -/
theorem removeFiles_outside (paths : List String) (files : Files) :
    SameOutside destination files (removeFiles destination paths files).2 := by
  intro place outside
  induction paths generalizing files with
  | nil => rfl
  | cons path rest ih =>
      cases valid : validateRelativePath path with
      | error error =>
          rw [removeFiles, valid]
      | ok found =>
          rw [validateRelativePath_ok valid] at valid
          obtain ⟨next, _, elsewhere, same, _⟩ := @removeFiles_cons destination path valid rest files
          rw [same, ih next]
          exact elsewhere place (outside.ne _)

/-- What the writer and its rollback leave of the files. -/
structure Restores (sha256 : String → String) (faults : Faults) (repositoryName : String)
    (contents : Dict String String) (files : Files) : Prop where
  failed : ∀ error after, write sha256 faults repositoryName contents files =
    (.error error, after) → after = files
  rolledBack : ∀ hashes after, write sha256 faults repositoryName contents files =
    (.ok hashes, after) → ∃ removed final,
      rollback repositoryName (contents.items.map Prod.fst) after = (.ok removed, final) ∧
        (final = files ↔ ∀ path ∈ contents.items.map Prod.fst,
          files (resolve repositoryName ++ parts path) = none)
  outside : SameOutside (resolve repositoryName) files
    (write sha256 faults repositoryName contents files).2
  outsideRollback : ∀ paths, SameOutside (resolve repositoryName) files
    (rollback repositoryName paths files).2

theorem write_cases (repositoryName : String) (contents : Dict String String) (files : Files) :
    (∃ error, write sha256 faults repositoryName contents files = (.error error, files)) ∨
      ∃ hashes, (writeFiles sha256 faults (resolve repositoryName)
          (sortedBy Prod.fst contents.items) files).1 = .ok hashes ∧
        write sha256 faults repositoryName contents files = (.ok hashes, (writeFiles sha256 faults
          (resolve repositoryName) (sortedBy Prod.fst contents.items) files).2.2) := by
  have undone := @unlink_written sha256 faults (resolve repositoryName)
    (sortedBy Prod.fst contents.items) files
  unfold write
  split
  · rename_i error _
    exact .inl ⟨error, rfl⟩
  · split
    · rename_i hashes written after looped
      rw [looped]
      exact .inr ⟨hashes, rfl, rfl⟩
    · rename_i error written after looped
      rw [looped] at undone
      exact .inl ⟨error, by rw [← undone]⟩

theorem write_restores (sha256 : String → String) (faults : Faults) (repositoryName : String)
    (contents : Dict String String) (files : Files) :
    Restores sha256 faults repositoryName contents files := by
  constructor
  · intro error after failed
    rcases @write_cases sha256 faults repositoryName contents files with
      ⟨other, restored⟩ | ⟨hashes, _, returned⟩
    · rw [restored] at failed
      exact (congrArg Prod.snd failed).symm
    · rw [returned] at failed
      cases failed
  · intro hashes after succeeded
    rcases @write_cases sha256 faults repositoryName contents files with
      ⟨other, restored⟩ | ⟨found, looped, returned⟩
    · rw [restored] at succeeded
      cases succeeded
    rw [returned] at succeeded
    obtain rfl := (congrArg Prod.snd succeeded : _ = after)
    have valid : ∀ path ∈ (sortedBy id (contents.items.map Prod.fst)).reverse,
        validateRelativePath path = .ok (parts path) := by
      intro path member
      obtain ⟨file, listed, rfl⟩ := List.mem_map.mp
        ((mem_sortedBy _ _ _).mp (List.mem_reverse.mp member))
      exact writeFiles_valid looped file ((mem_sortedBy _ _ _).mpr listed)
    obtain ⟨⟨removed, answered⟩, missing, kept⟩ := @removeFiles_valid (resolve repositoryName) _
      (writeFiles sha256 faults (resolve repositoryName) (sortedBy Prod.fst contents.items)
        files).2.2 valid
    refine ⟨removed, _, Prod.ext answered rfl, ?_, ?_⟩
    · intro same path member
      rw [← same]
      exact missing path (List.mem_reverse.mpr ((mem_sortedBy _ _ _).mpr member))
    · intro absent
      funext place
      by_cases planned : ∃ path ∈ contents.items.map Prod.fst,
          place = resolve repositoryName ++ parts path
      · obtain ⟨path, member, rfl⟩ := planned
        rw [absent path member]
        exact missing path (List.mem_reverse.mpr ((mem_sortedBy _ _ _).mpr member))
      · push Not at planned
        refine (kept place ?_).trans (writeFiles_frame _ _ ?_)
        · intro path member
          exact planned path ((mem_sortedBy _ _ _).mp (List.mem_reverse.mp member))
        · intro file member
          exact planned file.1 (List.mem_map_of_mem ((mem_sortedBy _ _ _).mp member))
  · intro place outside
    rcases @write_cases sha256 faults repositoryName contents files with
      ⟨other, restored⟩ | ⟨found, looped, returned⟩
    · rw [restored]
    · rw [returned]
      exact writeFiles_frame _ _ fun file _ => outside.ne _
  · intro paths
    exact removeFiles_outside _ _

end ArtifactWriter

namespace BuildWorkerService

variable {sha256 : ByteArray → String} {tenantSubdirectories : Bool} {faults : Faults}
  {destination : List String}

/-- A file of a plan whose path is valid, whose old text can be read and which can be written. -/
def GoesThrough (faults : Faults) (destination : List String) (files : Files)
    (file : String × String) : Prop :=
  (∃ place, validateRelativePath file.1 = .ok place) ∧ faults file.1 = none ∧
    ∀ bytes, files (destination ++ parts file.1) = some bytes → Files.Readable bytes

instance (files : Files) (file : String × String) :
    Decidable (GoesThrough faults destination files file) :=
  decidable_of_iff ((validateRelativePath file.1).isOk = true ∧ faults file.1 = none ∧
    (files (destination ++ parts file.1)).all (fun bytes => (Files.decode bytes).isOk) = true) (by
      have returns {Value : Type} (answer : Except PyError Value) :
          answer.isOk = true ↔ ∃ value, answer = .ok value := by
        cases answer <;> simp [Except.isOk, Except.toBool]
      simp only [GoesThrough, returns, Option.all_eq_true, Files.Readable])

/-- The files of a plan before the first one that does not go through. -/
def reached (faults : Faults) (destination : List String) (files : Files)
    (contents : List (String × String)) : List (String × String) :=
  contents.takeWhile fun file => GoesThrough faults destination files file

variable {place : List String}

/-- A written file can be read, so that the files which go through stay the same. -/
theorem goesThrough_write {files : Files} (content : String)
    (readable : ∀ bytes, files place = some bytes → Files.Readable bytes) (file : String × String) :
    GoesThrough faults destination (files.write place content) file ↔
      GoesThrough faults destination files file := by
  refine and_congr_right fun _ => and_congr_right fun _ => ?_
  by_cases same : destination ++ parts file.1 = place
  · rw [same, Files.write_self]
    refine iff_of_true ?_ readable
    rintro bytes equal
    rw [← Option.some.inj equal]
    exact Files.readable_toUTF8 content
  · rw [Files.write_of_ne same]

variable {file : String × String}

theorem reached_cons {files : Files}
    (goes : GoesThrough faults destination files file) (rest : List (String × String)) :
    reached faults destination files (file :: rest) = file ::
      reached faults destination (files.write (destination ++ parts file.1) file.2) rest := by
  have same : (fun other => decide (GoesThrough faults destination
      (files.write (destination ++ parts file.1) file.2) other)) =
      fun other => decide (GoesThrough faults destination files other) := by
    funext other
    exact decide_eq_decide.mpr (goesThrough_write file.2 goes.2.2 other)
  have first : decide (GoesThrough faults destination files file) = true := decide_eq_true goes
  rw [reached, reached, same, List.takeWhile_cons, first]
  rfl

theorem reached_stops {files : Files}
    (stuck : ¬ GoesThrough faults destination files file) (rest : List (String × String)) :
    reached faults destination files (file :: rest) = [] := by
  rw [reached, List.takeWhile_cons_of_neg]
  simpa using stuck

/-- A file that goes through is written, and the loop goes on. -/
theorem applyFiles_cons {files : Files}
    (goes : GoesThrough faults destination files file) (rest : List (String × String)) :
    ∃ backup, backupOf files (destination ++ parts file.1) = .ok backup ∧
      applyFiles faults destination (file :: rest) files =
        ((applyFiles faults destination rest (files.write (destination ++ parts file.1) file.2)).1,
          (file.1, backup) :: (applyFiles faults destination rest
            (files.write (destination ++ parts file.1) file.2)).2.1,
          (applyFiles faults destination rest
            (files.write (destination ++ parts file.1) file.2)).2.2) := by
  obtain ⟨relativePath, content⟩ := file
  obtain ⟨⟨place, valid⟩, able, readable⟩ := goes
  obtain rfl := validateRelativePath_ok valid
  have read : ∃ backup, backupOf files (destination ++ parts relativePath) = .ok backup := by
    unfold backupOf
    cases present : files (destination ++ parts relativePath) with
    | none => exact ⟨none, rfl⟩
    | some bytes =>
        obtain ⟨text, decoded⟩ := readable bytes present
        exact ⟨some text, by simp only [decoded]; rfl⟩
  obtain ⟨backup, saved⟩ := read
  refine ⟨backup, saved, ?_⟩
  rw [applyFiles, valid]
  dsimp only
  dsimp only at able
  rw [saved, able]

/-- The loop stops before a file that does not go through. -/
theorem applyFiles_stops {files : Files}
    (stuck : ¬ GoesThrough faults destination files file) (rest : List (String × String)) :
    ∃ error, applyFiles faults destination (file :: rest) files =
      (.error error, [], files) := by
  obtain ⟨relativePath, content⟩ := file
  unfold applyFiles
  split
  · rename_i error _
    exact ⟨error, rfl⟩
  · rename_i place valid
    obtain rfl := validateRelativePath_ok valid
    split
    · rename_i error _
      exact ⟨error, rfl⟩
    · rename_i backup saved
      split
      · rename_i error _
        exact ⟨error, rfl⟩
      · rename_i able
        refine absurd ⟨⟨_, valid⟩, able, ?_⟩ stuck
        intro bytes present
        simp only [backupOf, present] at saved
        obtain ⟨text, decoded, _⟩ := (map_eq_ok_iff _ _ _).mp saved
        exact ⟨text, decoded⟩

variable (contents : List (String × String))

/-- The loop has a backup of every file that it reached. -/
theorem applyFiles_backups (files : Files) :
    (applyFiles faults destination contents files).2.1.map Prod.fst =
      (reached faults destination files contents).map Prod.fst := by
  induction contents generalizing files with
  | nil => rfl
  | cons file rest ih =>
      by_cases goes : GoesThrough faults destination files file
      · obtain ⟨backup, _, loop⟩ := applyFiles_cons goes rest
        rw [loop, reached_cons goes, List.map_cons, List.map_cons, ih]
      · obtain ⟨error, stopped⟩ := applyFiles_stops goes rest
        rw [stopped, reached_stops goes]
        rfl

variable {backup : Option String}

/-- A backup gives back what a text-mode reader writes back. -/
theorem restoreFile_self {files after : Files} {path : String}
    (saved : backupOf files (destination ++ parts path) = .ok backup) :
    restoreFile destination after (path, backup) (destination ++ parts path) =
      (files (destination ++ parts path)).map Files.rewritten := by
  unfold backupOf at saved
  cases present : files (destination ++ parts path) with
  | none =>
      simp only [present] at saved
      cases saved
      exact Files.unlink_self _ _
  | some bytes =>
      simp only [present] at saved
      obtain ⟨text, decoded, rfl⟩ := (map_eq_ok_iff _ _ _).mp saved
      rw [Option.map_some, Files.rewritten, decoded]
      exact Files.write_self _ _ _

theorem restoreFile_of_ne {files : Files} {path : String} (other : place ≠ destination ++ parts path) :
    restoreFile destination files (path, backup) place = files place := by
  cases backup with
  | none => exact Files.unlink_of_ne other
  | some text => exact Files.write_of_ne other

/-- The restored files are the old ones as a text-mode reader writes them back. -/
theorem restored_at (files : Files) (place : List String) :
    (applyFiles faults destination contents files).2.1.reverse.foldl (restoreFile destination)
        (applyFiles faults destination contents files).2.2 place =
      if ∃ file ∈ reached faults destination files contents, place = destination ++ parts file.1 then
        (files place).map Files.rewritten
      else files place := by
  induction contents generalizing files with
  | nil => rfl
  | cons file rest ih =>
      by_cases goes : GoesThrough faults destination files file
      · obtain ⟨backup, saved, loop⟩ := applyFiles_cons goes rest
        have later := ih (files.write (destination ++ parts file.1) file.2)
        rw [loop, reached_cons goes]
        simp only [List.reverse_cons, List.foldl_append, List.foldl_cons, List.foldl_nil]
        by_cases here : place = destination ++ parts file.1
        · subst here
          rw [restoreFile_self saved, if_pos ⟨file, List.mem_cons_self, rfl⟩]
        · rw [restoreFile_of_ne here, later, Files.write_of_ne here]
          simp only [List.mem_cons, exists_eq_or_imp, here, false_or]
      · obtain ⟨error, stopped⟩ := applyFiles_stops goes rest
        rw [stopped, reached_stops goes]
        simp

variable (backups : Backups)

/-- A restored file has the text of its first backup. -/
theorem restore_at (files : Files) (place : List String) :
    restore destination backups files place =
      match (sortedBy Prod.fst backups).find? fun backup =>
          destination ++ parts backup.1 = place with
      | some backup => backup.2.map String.toUTF8
      | none => files place := by
  unfold restore
  induction sortedBy Prod.fst backups with
  | nil => rfl
  | cons backup rest ih =>
      obtain ⟨path, saved⟩ := backup
      simp only [List.reverse_cons, List.foldl_append, List.foldl_cons, List.foldl_nil]
      by_cases here : destination ++ parts path = place
      · subst here
        simp only [List.find?_cons, decide_true]
        cases saved with
        | none => exact Files.unlink_self _ _
        | some text => exact Files.write_self _ _ _
      · simp only [List.find?_cons, here, decide_false]
        exact (restoreFile_of_ne (Ne.symm here)).trans ih

theorem restore_outside (files : Files) :
    SameOutside destination files (restore destination backups files) := by
  intro place outside
  have absent : (sortedBy Prod.fst backups).find? (fun backup =>
      destination ++ parts backup.1 = place) = none := by
    rw [List.find?_eq_none]
    intro backup _
    simpa using Ne.symm (outside.ne (parts backup.1))
  rw [restore_at, absent]

/-- The loop writes files below its directory only. -/
theorem applyFiles_outside (files : Files) :
    SameOutside destination files (applyFiles faults destination contents files).2.2 := by
  intro place outside
  induction contents generalizing files with
  | nil => rfl
  | cons file rest ih =>
      by_cases goes : GoesThrough faults destination files file
      · obtain ⟨backup, _, loop⟩ := applyFiles_cons goes rest
        rw [loop]
        exact (ih _).trans (Files.write_of_ne (outside.ne _))
      · obtain ⟨error, stopped⟩ := applyFiles_stops goes rest
        rw [stopped]

/-- No file that was reached has a carriage return. -/
def TextKept (faults : Faults) (destination : List String) (files : Files)
    (contents : List (String × String)) : Prop :=
  ∀ file ∈ reached faults destination files contents, ∀ bytes,
    files (destination ++ parts file.1) = some bytes → ¬ Files.HasReturn bytes

/-- The backups of a sorted plan give back the files exactly when no reached file has a carriage
return. -/
theorem restore_eq_iff {contents : List (String × String)} {files : Files}
    (ordered : contents.Pairwise fun first second => first.1 ≤ second.1) :
    restore destination (applyFiles faults destination contents files).2.1
        (applyFiles faults destination contents files).2.2 = files ↔
      TextKept faults destination files contents := by
  have sorted : sortedBy Prod.fst (applyFiles faults destination contents files).2.1 =
      (applyFiles faults destination contents files).2.1 := by
    refine sortedBy_of_pairwise _ _ ?_
    have keys : ((reached faults destination files contents).map Prod.fst).Pairwise (· ≤ ·) :=
      List.pairwise_map.mpr (ordered.sublist (List.takeWhile_sublist _))
    rw [← applyFiles_backups] at keys
    exact List.pairwise_map.mp keys
  have places (place : List String) := @restored_at faults destination contents files place
  have readable : ∀ file ∈ reached faults destination files contents,
      GoesThrough faults destination files file := fun file member =>
    of_decide_eq_true (List.all_eq_true.mp List.all_takeWhile file member)
  rw [restore, sorted]
  constructor
  · intro same file member bytes present
    have here := places (destination ++ parts file.1)
    rw [same, if_pos ⟨file, member, rfl⟩, present, Option.map_some, Option.some.injEq] at here
    exact (Files.rewritten_eq_self_iff ((readable file member).2.2 bytes present)).mp here.symm
  · intro kept
    funext place
    rw [places]
    split
    · rename_i written
      obtain ⟨file, member, rfl⟩ := written
      cases present : files (destination ++ parts file.1) with
      | none => rfl
      | some bytes =>
          rw [Option.map_some, (Files.rewritten_eq_self_iff
            ((readable file member).2.2 bytes present)).mpr (kept file member bytes present)]
    · rfl

/-- What a build leaves of the files when it fails, and what its rollback leaves of them. -/
theorem writeArtifacts_cases (plan : BuildPlan) (files : Files) :
    (∃ error after, writeArtifacts sha256 faults plan destination files =
      (.error error, after) ∧ SameOutside destination files after ∧
        (after = files ↔ TextKept faults destination files
          (sortedBy Prod.fst plan.artifactContents.items))) ∨
      ∃ backups after, writeArtifacts sha256 faults plan destination files = (.ok backups, after) ∧
        SameOutside destination files after ∧
          (restore destination backups after = files ↔ TextKept faults destination files
            (sortedBy Prod.fst plan.artifactContents.items)) := by
  have restored := @restore_eq_iff faults destination
    (sortedBy Prod.fst plan.artifactContents.items) files (sortedBy_pairwise _ _)
  have written := @applyFiles_outside faults destination
    (sortedBy Prod.fst plan.artifactContents.items) files
  have outside : SameOutside destination files (restore destination
      (applyFiles faults destination (sortedBy Prod.fst plan.artifactContents.items) files).2.1
      (applyFiles faults destination (sortedBy Prod.fst plan.artifactContents.items) files).2.2) :=
    fun place other => (restore_outside _ _ place other).trans (written place other)
  unfold writeArtifacts
  split
  · rename_i error backups after looped
    rw [looped] at restored outside
    exact .inl ⟨error, _, rfl, outside, restored⟩
  · rename_i backups after looped
    rw [looped] at restored outside written
    split
    · exact .inl ⟨_, _, rfl, outside, restored⟩
    · exact .inr ⟨backups, after, rfl, written, restored⟩

/-- The call writes the files of a plan into a directory. -/
structure Writes (tenantSubdirectories : Bool) (factory : Factory) (ctx : TenantContext)
    (buildId : String) (plan : BuildPlan) (destination : List String) : Prop where
  stored : BuildWorkers.BuildWorkerService.get factory ctx buildId = .ok plan
  incomplete : BuildWorkers.BuildWorkerService.completed? factory buildId = none
  approved : ∃ approval, BuildWorkers.BuildWorkerService.approval factory ctx plan = .ok approval
  placed : BuildWorkers.BuildWorkerService.destination tenantSubdirectories plan = .ok destination

/-- A call that writes nothing leaves the site as it is. -/
theorem execute_of_not_writes {site : BuildSite} {ctx : TenantContext} {buildId : String}
    (idle : ∀ plan place, ¬ Writes tenantSubdirectories site.factory ctx buildId plan place) :
    (execute sha256 tenantSubdirectories faults site ctx buildId).2 = site := by
  unfold execute
  split
  · rfl
  · rename_i plan stored
    split
    · rfl
    · rename_i incomplete
      split
      · rfl
      · rename_i approval approved
        split
        · rfl
        · rename_i place placed
          exact absurd ⟨stored, incomplete, ⟨approval, approved⟩, placed⟩ (idle plan place)

section Writing

variable {site : BuildSite} {ctx : TenantContext} {buildId : String} {plan : BuildPlan}

/-- The rollback of a build puts its backups back. -/
theorem rollback_of {backups : Backups}
    (stored : BuildWorkers.BuildWorkerService.get site.factory ctx buildId = .ok plan)
    (approved : ∃ approval,
      BuildWorkers.BuildWorkerService.approval site.factory ctx plan = .ok approval)
    (placed : BuildWorkers.BuildWorkerService.destination tenantSubdirectories plan =
      .ok destination)
    (saved : site.factory.rollbackPlans.get? buildId = some backups) :
    rollback tenantSubdirectories site ctx buildId = (.ok (sortedBy id (backups.map Prod.fst)),
      { site with files := restore destination backups site.files }) := by
  obtain ⟨approval, approved⟩ := approved
  rw [rollback, stored]
  dsimp only
  rw [approved]
  dsimp only
  rw [saved]
  dsimp only
  rw [placed]

/-- The site after a build that has written its files. -/
def built (site : BuildSite) (ctx : TenantContext) (plan : BuildPlan)
    (approval : BuildWorkers.BuildApproval) (buildId : String) (backups : Backups) (files : Files) :
    BuildSite where
  factory := { site.factory with
    results := site.factory.results.set buildId
      (BuildWorkers.BuildWorkerService.resultOf ctx plan approval)
    rollbackPlans := site.factory.rollbackPlans.set buildId backups }
  files := files

/-- A build that writes either fails and restores its backups, or keeps them for its rollback. -/
theorem execute_of_writes
    (writes : Writes tenantSubdirectories site.factory ctx buildId plan destination) :
    (∃ error after, execute sha256 tenantSubdirectories faults site ctx buildId =
        (.error error, { site with files := after }) ∧ SameOutside destination site.files after ∧
        (after = site.files ↔ TextKept faults destination site.files
          (sortedBy Prod.fst plan.artifactContents.items))) ∨
      ∃ result paths after final, execute sha256 tenantSubdirectories faults site ctx buildId =
          (.ok result, after) ∧ SameOutside destination site.files after.files ∧
        rollback tenantSubdirectories after ctx buildId = (.ok paths, final) ∧
        (final.files = site.files ↔ TextKept faults destination site.files
          (sortedBy Prod.fst plan.artifactContents.items)) := by
  obtain ⟨stored, incomplete, ⟨approval, approved⟩, placed⟩ := writes
  rw [execute, stored]
  dsimp only
  rw [incomplete]
  dsimp only
  rw [approved]
  dsimp only
  rw [placed]
  dsimp only
  rcases @writeArtifacts_cases sha256 faults destination plan site.files with
    ⟨error, after, answered, outside, restored⟩ | ⟨backups, after, answered, outside, restored⟩
  · rw [answered]
    exact .inl ⟨error, after, rfl, outside, restored⟩
  · rw [answered]
    have rolled : rollback tenantSubdirectories (built site ctx plan approval buildId backups after) ctx
        buildId = (.ok (sortedBy id (backups.map Prod.fst)),
          { built site ctx plan approval buildId backups after with
            files := restore destination backups after }) :=
      rollback_of stored ⟨approval, approved⟩ placed (Dict.get?_set_self _ _ _)
    exact .inr ⟨_, _, _, _, rfl, outside, rolled, restored⟩

/-- The backups of a build that is completed already agree with its files. -/
def BackupsHold (tenantSubdirectories : Bool) (site : BuildSite) (ctx : TenantContext)
    (buildId : String) : Prop :=
  ∀ plan destination backups,
    BuildWorkers.BuildWorkerService.get site.factory ctx buildId = .ok plan →
    BuildWorkers.BuildWorkerService.destination tenantSubdirectories plan = .ok destination →
    site.factory.rollbackPlans.get? buildId = some backups →
    ∀ place backup, (sortedBy Prod.fst backups).find? (fun backup =>
        destination ++ parts backup.1 = place) = some backup →
      site.files place = backup.2.map String.toUTF8

/-- What a build and its rollback leave of the files. -/
structure Restores (sha256 : ByteArray → String) (tenantSubdirectories : Bool) (faults : Faults)
    (site : BuildSite) (ctx : TenantContext) (buildId : String) : Prop where
  failed : ∀ error after, execute sha256 tenantSubdirectories faults site ctx buildId =
    (.error error, after) →
      (after.files = site.files ↔
        ∀ plan destination, Writes tenantSubdirectories site.factory ctx buildId plan destination →
          TextKept faults destination site.files (sortedBy Prod.fst plan.artifactContents.items))
  rolledBack : ∀ result after, execute sha256 tenantSubdirectories faults site ctx buildId =
    (.ok result, after) → BuildWorkers.BuildWorkerService.completed? site.factory buildId = none →
      ∃ paths final, rollback tenantSubdirectories after ctx buildId = (.ok paths, final) ∧
        (final.files = site.files ↔
          ∀ plan destination, Writes tenantSubdirectories site.factory ctx buildId plan destination →
            TextKept faults destination site.files (sortedBy Prod.fst plan.artifactContents.items))
  repeated : ∀ result after paths final,
    execute sha256 tenantSubdirectories faults site ctx buildId = (.ok result, after) →
      BuildWorkers.BuildWorkerService.completed? site.factory buildId ≠ none →
      rollback tenantSubdirectories after ctx buildId = (.ok paths, final) →
        (final.files = site.files ↔ BackupsHold tenantSubdirectories site ctx buildId)
  outside : ∀ place, (∀ plan destination,
      BuildWorkers.BuildWorkerService.get site.factory ctx buildId = .ok plan →
      BuildWorkers.BuildWorkerService.destination tenantSubdirectories plan = .ok destination →
      Outside destination place) →
    (execute sha256 tenantSubdirectories faults site ctx buildId).2.files place = site.files place ∧
      (rollback tenantSubdirectories site ctx buildId).2.files place = site.files place

/-- The directory of a call that writes is the only one. -/
theorem Writes.forall_iff
    (writes : Writes tenantSubdirectories site.factory ctx buildId plan destination)
    (condition : BuildPlan → List String → Prop) :
    (∀ plan destination, Writes tenantSubdirectories site.factory ctx buildId plan destination →
      condition plan destination) ↔ condition plan destination := by
  constructor
  · exact fun all => all plan destination writes
  · intro holds other place found
    obtain rfl := Except.ok.inj (writes.stored.symm.trans found.stored)
    obtain rfl := Except.ok.inj (writes.placed.symm.trans found.placed)
    exact holds

theorem rollback_cases (site : BuildSite) (ctx : TenantContext) (buildId : String) :
    (∃ error, rollback tenantSubdirectories site ctx buildId = (.error error, site)) ∨
      ∃ plan destination backups,
        BuildWorkers.BuildWorkerService.get site.factory ctx buildId = .ok plan ∧
        BuildWorkers.BuildWorkerService.destination tenantSubdirectories plan = .ok destination ∧
        site.factory.rollbackPlans.get? buildId = some backups ∧
        rollback tenantSubdirectories site ctx buildId = (.ok (sortedBy id (backups.map Prod.fst)),
          { site with files := restore destination backups site.files }) := by
  unfold rollback
  split
  · exact .inl ⟨_, rfl⟩
  · rename_i plan stored
    split
    · exact .inl ⟨_, rfl⟩
    · split
      · exact .inl ⟨_, rfl⟩
      · rename_i backups saved
        split
        · exact .inl ⟨_, rfl⟩
        · rename_i destination placed
          exact .inr ⟨plan, destination, backups, stored, placed, saved, rfl⟩

variable {result : BuildResult} {after : BuildSite}

/-- A call that returns a new result has written its files. -/
theorem writes_of_ok
    (returned : execute sha256 tenantSubdirectories faults site ctx buildId = (.ok result, after))
    (incomplete : BuildWorkers.BuildWorkerService.completed? site.factory buildId = none) :
    ∃ plan destination, Writes tenantSubdirectories site.factory ctx buildId plan destination := by
  unfold execute at returned
  split at returned
  · cases returned
  · rename_i plan stored
    rw [incomplete] at returned
    dsimp only at returned
    split at returned
    · cases returned
    · rename_i approval approved
      split at returned
      · cases returned
      · rename_i place placed
        exact ⟨plan, place, stored, incomplete, ⟨approval, approved⟩, placed⟩

variable {place : List String}

section

variable (outside : ∀ plan destination,
  BuildWorkers.BuildWorkerService.get site.factory ctx buildId = .ok plan →
    BuildWorkers.BuildWorkerService.destination tenantSubdirectories plan = .ok destination →
      Outside destination place)
include outside

/-- A call writes below the directory of its plan only. -/
theorem execute_outside :
    (execute sha256 tenantSubdirectories faults site ctx buildId).2.files place =
      site.files place := by
  by_cases writing : ∃ plan destination,
      Writes tenantSubdirectories site.factory ctx buildId plan destination
  · obtain ⟨plan, destination, writes⟩ := writing
    have away := outside plan destination writes.stored writes.placed
    rcases @execute_of_writes sha256 tenantSubdirectories faults destination site ctx buildId plan
      writes with ⟨error, after, answered, same, _⟩ | ⟨result, paths, after, final, answered,
        same, _⟩
    · rw [answered]
      exact same place away
    · rw [answered]
      exact same place away
  · push Not at writing
    rw [execute_of_not_writes writing]

theorem rollback_outside :
    (rollback tenantSubdirectories site ctx buildId).2.files place = site.files place := by
  rcases @rollback_cases tenantSubdirectories site ctx buildId with
    ⟨error, answered⟩ | ⟨plan, destination, backups, stored, placed, _, answered⟩
  · rw [answered]
  · rw [answered]
    exact restore_outside backups site.files place (outside plan destination stored placed)

end

/-- A completed build is answered from its row, and its rollback gives back the files exactly when the
stored backups agree with them. -/
theorem repeated_restores {paths : List String} {final : BuildSite}
    (rolled : rollback tenantSubdirectories site ctx buildId = (.ok paths, final)) :
    final.files = site.files ↔ BackupsHold tenantSubdirectories site ctx buildId := by
  rcases @rollback_cases tenantSubdirectories site ctx buildId with
    ⟨error, answered⟩ | ⟨plan, destination, backups, stored, placed, saved, answered⟩
  · rw [answered] at rolled
    cases rolled
  rw [answered] at rolled
  obtain rfl := (congrArg Prod.snd rolled : _ = final)
  have holds : BackupsHold tenantSubdirectories site ctx buildId ↔
      ∀ place backup, (sortedBy Prod.fst backups).find? (fun backup =>
          destination ++ parts backup.1 = place) = some backup →
        site.files place = backup.2.map String.toUTF8 := by
    constructor
    · exact fun all => all plan destination backups stored placed saved
    · intro agree other found kept isPlan isPlace isKept
      obtain rfl := Except.ok.inj (stored.symm.trans isPlan)
      obtain rfl := Except.ok.inj (placed.symm.trans isPlace)
      obtain rfl := Option.some.inj (saved.symm.trans isKept)
      exact agree
  rw [holds]
  constructor
  · intro same place backup found
    have here : restore destination backups site.files place = site.files place :=
      congrFun same place
    rw [restore_at, found] at here
    exact here.symm
  · intro agree
    funext place
    refine (restore_at backups site.files place).trans ?_
    cases found : (sortedBy Prod.fst backups).find? fun backup =>
        destination ++ parts backup.1 = place with
    | none => rfl
    | some backup => exact (agree place backup found).symm

theorem execute_of_completed
    (returned : execute sha256 tenantSubdirectories faults site ctx buildId = (.ok result, after))
    (completed : BuildWorkers.BuildWorkerService.completed? site.factory buildId ≠ none) :
    after = site := by
  have idle : ∀ plan place, ¬ Writes tenantSubdirectories site.factory ctx buildId plan place :=
    fun plan place writes => completed writes.incomplete
  rw [← execute_of_not_writes idle, returned]

theorem execute_restores (sha256 : ByteArray → String) (tenantSubdirectories : Bool)
    (faults : Faults) (site : BuildSite) (ctx : TenantContext) (buildId : String) :
    Restores sha256 tenantSubdirectories faults site ctx buildId := by
  constructor
  · intro error after failed
    by_cases writing : ∃ plan destination,
        Writes tenantSubdirectories site.factory ctx buildId plan destination
    · obtain ⟨plan, destination, writes⟩ := writing
      rw [writes.forall_iff]
      rcases @execute_of_writes sha256 tenantSubdirectories faults destination site ctx buildId plan
        writes with ⟨other, files, answered, _, restored⟩ | ⟨result, paths, other, final, answered, _⟩
      · rw [answered] at failed
        obtain rfl := (congrArg Prod.snd failed : _ = after)
        exact restored
      · rw [answered] at failed
        cases failed
    · push Not at writing
      have same := @execute_of_not_writes sha256 tenantSubdirectories faults site ctx buildId writing
      rw [failed] at same
      subst same
      exact iff_of_true rfl fun plan destination writes => absurd writes (writing plan destination)
  · intro result after returned incomplete
    obtain ⟨plan, destination, writes⟩ := writes_of_ok returned incomplete
    rw [writes.forall_iff]
    rcases @execute_of_writes sha256 tenantSubdirectories faults destination site ctx buildId plan
      writes with ⟨other, files, answered, _⟩ | ⟨other, paths, site', final, answered, _, rolled,
        restored⟩
    · rw [answered] at returned
      cases returned
    · rw [answered] at returned
      obtain rfl := (congrArg Prod.snd returned : _ = after)
      exact ⟨paths, final, rolled, restored⟩
  · intro result after paths final returned completed rolled
    obtain rfl := execute_of_completed returned completed
    exact repeated_restores rolled
  · intro place outside
    exact ⟨execute_outside outside, rollback_outside outside⟩

end Writing

end BuildWorkerService

/-- The rollback of a written plan gives back the files exactly when no planned file existed. A failed or
rolled back build gives them back exactly when no file that it replaced has a carriage return, and the
rollback of a repeated build does exactly when its old backups still agree with the files. -/
theorem rollback_restores_files (sha256 : String → String) (byteSha256 : ByteArray → String)
    (tenantSubdirectories : Bool) (faults : Faults) (repositoryName : String)
    (contents : Dict String String) (files : Files) (factory : Factory) (ctx : TenantContext)
    (buildId : String) :
    ArtifactWriter.Restores sha256 faults repositoryName contents files ∧
      BuildWorkerService.Restores byteSha256 tenantSubdirectories faults ⟨factory, files⟩ ctx
        buildId :=
  ⟨ArtifactWriter.write_restores sha256 faults repositoryName contents files,
    BuildWorkerService.execute_restores byteSha256 tenantSubdirectories faults _ ctx buildId⟩

/-- A repository whose readme is already there with the planned text. -/
def readmeFiles : Files := Files.write (fun _ => none) ["repo", "README.md"] "text"

/-- The planned files of the repository. -/
def readmeContents : Dict String String := ⟨[("README.md", "text")], by simp⟩

/-- The rollback of the identical file deletes it. -/
theorem identical_file_is_deleted :
    ∃ hashes removed final,
      ArtifactWriter.write id (fun _ => none) "repo" readmeContents readmeFiles =
        (.ok hashes, readmeFiles) ∧
      ArtifactWriter.rollback "repo" (readmeContents.items.map Prod.fst) readmeFiles =
        (.ok removed, final) ∧ final ≠ readmeFiles := by
  have name : validateRelativePath "repo" = .ok ["repo"] := by decide
  have path : validateRelativePath "README.md" = .ok ["README.md"] := by decide
  have place : resolve "repo" = ["repo"] := by decide
  have sorted : sortedBy Prod.fst readmeContents.items = [("README.md", "text")] := rfl
  have present : readmeFiles ["repo", "README.md"] = some "text".toUTF8 := Files.write_self _ _ _
  have text : Files.decode "text".toUTF8 = .ok "text" := by
    rw [Files.decode_toUTF8]
    decide
  have written : ArtifactWriter.write id (fun _ => none) "repo" readmeContents readmeFiles =
      (.ok [("README.md", "text")], readmeFiles) := by
    have looped : ArtifactWriter.writeFiles id (fun _ => none) ["repo"] [("README.md", "text")]
        readmeFiles = (.ok [("README.md", "text")], [], readmeFiles) :=
      ArtifactWriter.writeFiles_identical path rfl present text
    rw [ArtifactWriter.write, name]
    dsimp only
    rw [sorted, place, looped]
  obtain ⟨removed, final, rolled, restored⟩ :=
    (ArtifactWriter.write_restores id (fun _ => none) "repo" readmeContents readmeFiles).rolledBack
      _ _ written
  refine ⟨_, removed, final, written, rolled, ?_⟩
  intro same
  have absent := restored.mp same "README.md" (by decide)
  rw [← validateRelativePath_ok path, place] at absent
  rw [List.cons_append, List.nil_append, present] at absent
  cases absent

end AgentFabric.FileRestoration
