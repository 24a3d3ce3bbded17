import AgentFabric.Construction.Renovation.TenantRecord
import AgentFabric.Foundation.FileSystem
import AgentFabric.Foundation.PyCoercion
import AgentFabric.Foundation.Transition

namespace AgentFabric.RepositoryExecution
open Sorting PosixPath

/-- The parts of a path that stays below the directory it starts from. -/
def validateRelativePath (value : String) : Except PyError (List String) :=
  if isAbsolute value ∨ ".." ∈ parts value ∨ parts value = [] then
    .error (.valueError ("unsafe artifact path: " ++ value))
  else .ok (parts value)

end AgentFabric.RepositoryExecution

namespace AgentFabric.BuildWorkers
open Sorting PosixPath RepositoryExecution
open Renovation (TenantContext)

structure WorkerTask where
  buildId : String
  workerId : String
  capability : String
  repositoryId : String
  order : Nat

/-- Who makes a build, and of what. -/
structure BuildHeader where
  tenantId : String
  organizationId : String
  createdBy : String
  executionId : String
  repositoryId : String
  platformId : String
  inputArtifactHashes : List (String × String)
  deriving DecidableEq

structure BuildPlan where
  buildId : String
  header : BuildHeader
  tasks : List WorkerTask
  workerResults : List Json
  outputArtifactHashes : Dict String String
  artifactContents : Dict String String
  qualityGates : List (String × Bool)
  rollbackPlan : List String
  marketplaceMetadata : Json
  reviewStatus : String
  status : String
  planDigest : String

structure BuildApproval where
  buildId : String
  tenantId : String
  approvedBy : String
  approvedAt : String
  planDigest : String

structure BuildResult where
  buildId : String
  tenantId : String
  repositoryId : String
  platformId : String
  status : String
  approval : BuildApproval
  outputArtifactHashes : List (String × String)
  qualityGates : List (String × Bool)
  marketplaceMetadata : Json
  reviewStatus : String

/-- The texts that a build replaced, where a file that was missing has none. -/
abbrev Backups := List (String × Option String)

/-- The rows of both services and the directory that they share. -/
structure Factory where
  plans : Dict String BuildPlan
  approvals : Dict String BuildApproval
  results : Dict String BuildResult
  rollbackPlans : Dict String Backups

namespace BuildWorkerService

variable (tenantSubdirectories : Bool) (factory : Factory) (ctx : TenantContext)

def get (buildId : String) : Except PyError BuildPlan :=
  match factory.plans.get? buildId with
  | none => .error (.notFoundError "repository build not found")
  | some plan =>
      if plan.header.tenantId ≠ ctx.tenantId then
        .error (.authorizationError "cross-tenant repository build access denied")
      else .ok plan

variable (plan : BuildPlan)

/-- The stored approval has to name the digest of the plan. -/
def approval : Except PyError BuildApproval :=
  match factory.approvals.get? plan.buildId with
  | none => .error (.authorizationError "repository build approval is required")
  | some approval =>
      if approval.tenantId ≠ ctx.tenantId ∨ approval.planDigest ≠ plan.planDigest then
        .error (.authorizationError "repository build approval is invalid")
      else .ok approval

/-- The place of a build, where the two ids are relative paths. -/
def destination : Except PyError (List String) :=
  let place := resolve (if tenantSubdirectories ∧ plan.header.tenantId ≠ "" then
    plan.header.tenantId ++ "/" ++ plan.header.repositoryId else plan.header.repositoryId)
  if isInside place then .ok place
  else .error (.valueError "build destination escapes output root")

/-- The stored result of a build that counts as completed. -/
def completed? (buildId : String) : Option BuildResult :=
  (factory.results.get? buildId).filter fun result => result.status = "completed"

def resultOf (approval : BuildApproval) : BuildResult where
  buildId := plan.buildId
  tenantId := ctx.tenantId
  repositoryId := plan.header.repositoryId
  platformId := plan.header.platformId
  status := "completed"
  approval := approval
  outputArtifactHashes := sortedBy Prod.fst plan.outputArtifactHashes.items
  qualityGates := plan.qualityGates
  marketplaceMetadata := plan.marketplaceMetadata
  reviewStatus := "pending"

end BuildWorkerService

end AgentFabric.BuildWorkers

namespace AgentFabric.FileRestoration
open Sorting PosixPath RepositoryExecution
open BuildWorkers (Backups BuildPlan BuildResult Factory)
open Renovation (TenantContext)

/-- The directory or the file of a path cannot be made or written, and nothing has changed. -/
abbrev Faults := String → Option PyError

namespace ArtifactWriter

variable (sha256 : String → String)

/-- The loop of the writer over bytes, where a file that exists is compared as a text. -/
def writeFiles (faults : Faults) (destination : List String) : List (String × String) → Files →
    Except PyError (List (String × String)) × List (List String) × Files
  | [], files => (.ok [], [], files)
  | (relativePath, content) :: rest, files =>
      match validateRelativePath relativePath with
      | .error exception => (.error exception, [], files)
      | .ok place =>
          match faults relativePath with
          | some exception => (.error exception, [], files)
          | none =>
              match files (destination ++ place) with
              | some bytes =>
                  match Files.decode bytes with
                  | .error exception => (.error exception, [], files)
                  | .ok text =>
                      if text ≠ content then
                        (.error (.fileExistsError
                          ("refusing to overwrite divergent artifact: " ++ relativePath)), [], files)
                      else
                        let (hashes, written, after) := writeFiles faults destination rest files
                        (hashes.map fun hashes => (relativePath, sha256 content) :: hashes, written,
                          after)
              | none =>
                  let (hashes, written, after) := writeFiles faults destination rest
                    (files.write (destination ++ place) content)
                  (hashes.map fun hashes => (relativePath, sha256 content) :: hashes,
                    (destination ++ place) :: written, after)

/-- A failed loop removes the files that it wrote, the last one first. -/
def write (faults : Faults) (repositoryName : String) (contents : Dict String String)
    (files : Files) : Except PyError (List (String × String)) × Files :=
  match validateRelativePath repositoryName with
  | .error exception => (.error exception, files)
  | .ok _ =>
      match writeFiles sha256 faults (resolve repositoryName) (sortedBy Prod.fst contents.items)
          files with
      | (.ok hashes, _, after) => (.ok hashes, after)
      | (.error exception, written, after) =>
          (.error exception, written.reverse.foldl Files.unlink after)

/-- The loop removes the files that exist and returns their paths. -/
def removeFiles (destination : List String) : List String → Files →
    Except PyError (List String) × Files
  | [], files => (.ok [], files)
  | relativePath :: rest, files =>
      match validateRelativePath relativePath with
      | .error exception => (.error exception, files)
      | .ok place =>
          match files (destination ++ place) with
          | some _ =>
              let (removed, after) :=
                removeFiles destination rest (files.unlink (destination ++ place))
              (removed.map fun removed => relativePath :: removed, after)
          | none => removeFiles destination rest files

def rollback (repositoryName : String) (relativePaths : List String) (files : Files) :
    Except PyError (List String) × Files :=
  removeFiles (resolve repositoryName) (sortedBy id relativePaths).reverse files

end ArtifactWriter

/-- The rows of the services beside the files of the output root. -/
structure BuildSite where
  factory : Factory
  files : Files

namespace BuildWorkerService

variable (sha256 : ByteArray → String) (tenantSubdirectories : Bool)

/-- The text of the file that a build replaces. -/
def backupOf (files : Files) (place : List String) : Except PyError (Option String) :=
  match files place with
  | none => .ok none
  | some bytes => (Files.decode bytes).map some

/-- The loop reads the text that a file replaces and writes the file. It returns the backups of the files
that it wrote. -/
def applyFiles (faults : Faults) (destination : List String) : List (String × String) → Files →
    Except PyError Unit × Backups × Files
  | [], files => (.ok (), [], files)
  | (relativePath, content) :: rest, files =>
      match validateRelativePath relativePath with
      | .error exception => (.error exception, [], files)
      | .ok place =>
          match backupOf files (destination ++ place) with
          | .error exception => (.error exception, [], files)
          | .ok backup =>
              match faults relativePath with
              | some exception => (.error exception, [], files)
              | none =>
                  let (answer, backups, after) := applyFiles faults destination rest
                    (files.write (destination ++ place) content)
                  (answer, (relativePath, backup) :: backups, after)

variable (destination : List String)

/-- A file gets its backup, and a file without one is removed. -/
def restoreFile (files : Files) (backup : String × Option String) : Files :=
  match backup.2 with
  | none => files.unlink (destination ++ parts backup.1)
  | some text => files.write (destination ++ parts backup.1) text

/-- The files are restored in the reverse order of their paths. -/
def restore (backups : Backups) (files : Files) : Files :=
  (sortedBy Prod.fst backups).reverse.foldl (restoreFile destination) files

/-- The hash of a file that was just written. -/
def actualHashes (paths : List String) (files : Files) : List (String × Option String) :=
  paths.map fun path => (path, (files (destination ++ parts path)).map sha256)

/-- The files are written and read again, and a failure restores the backups. -/
def writeArtifacts (faults : Faults) (plan : BuildPlan) (destination : List String)
    (files : Files) : Except PyError Backups × Files :=
  match applyFiles faults destination (sortedBy Prod.fst plan.artifactContents.items) files with
  | (.error exception, backups, after) => (.error exception, restore destination backups after)
  | (.ok _, backups, after) =>
      if actualHashes sha256 destination
            ((sortedBy Prod.fst plan.artifactContents.items).map Prod.fst) after ≠
          (sortedBy Prod.fst plan.outputArtifactHashes.items).map (Prod.map id some) then
        (.error (.valueError "build artifact hashes do not match approved plan"),
          restore destination backups after)
      else (.ok backups, after)

/-- A completed build returns its stored result, and any other one writes its files.
The rows and the events that follow the files are taken to be written: a failure there would leave the
files. -/
def execute (faults : Faults) (site : BuildSite) (ctx : TenantContext) (buildId : String) :
    Except PyError BuildResult × BuildSite :=
  match BuildWorkers.BuildWorkerService.get site.factory ctx buildId with
  | .error exception => (.error exception, site)
  | .ok plan =>
      match BuildWorkers.BuildWorkerService.completed? site.factory buildId with
      | some existing => (.ok existing, site)
      | none =>
          match BuildWorkers.BuildWorkerService.approval site.factory ctx plan with
          | .error exception => (.error exception, site)
          | .ok approval =>
              match BuildWorkers.BuildWorkerService.destination tenantSubdirectories plan with
              | .error exception => (.error exception, site)
              | .ok place =>
                  match writeArtifacts sha256 faults plan place site.files with
                  | (.error exception, files) => (.error exception, { site with files })
                  | (.ok backups, files) =>
                      let result := BuildWorkers.BuildWorkerService.resultOf ctx plan approval
                      (.ok result, {
                        factory := { site.factory with
                          results := site.factory.results.set buildId result
                          rollbackPlans := site.factory.rollbackPlans.set buildId backups }
                        files })

/-- A rollback puts the backups back and leaves every row as it is. -/
def rollback (site : BuildSite) (ctx : TenantContext) (buildId : String) :
    Except PyError (List String) × BuildSite :=
  match BuildWorkers.BuildWorkerService.get site.factory ctx buildId with
  | .error exception => (.error exception, site)
  | .ok plan =>
      match BuildWorkers.BuildWorkerService.approval site.factory ctx plan with
      | .error exception => (.error exception, site)
      | .ok _ =>
          match site.factory.rollbackPlans.get? buildId with
          | none => (.error (.notFoundError "build rollback plan not found"), site)
          | some backups =>
              match BuildWorkers.BuildWorkerService.destination tenantSubdirectories plan with
              | .error exception => (.error exception, site)
              | .ok place =>
                  (.ok (sortedBy id (backups.map Prod.fst)),
                    { site with files := restore place backups site.files })

end BuildWorkerService

end AgentFabric.FileRestoration
