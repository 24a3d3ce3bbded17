import AgentFabric.Construction.Marketplace.Registry

namespace AgentFabric.Packages
open Sorting

/-- The hexadecimal digest of the bytes of a text, which tells texts apart. -/
structure Sha256 where
  hexdigest : String → String
  injective : Function.Injective hexdigest
  filled : ∀ text, hexdigest text ≠ ""

/-- The names on the way to a file below the package root. -/
structure RelativePath where
  parts : List String
  filled : parts ≠ []
  named : ∀ part ∈ parts, part ∉ ["", ".", ".."] ∧ '/' ∉ part.toList
  deriving DecidableEq

def RelativePath.text (path : RelativePath) : String := "/".intercalate path.parts

/-- The place of the signature. -/
def signaturePath : RelativePath where
  parts := [".agentfabric", "signature.json"]
  filled := by decide
  named := by decide

/-- A manifest with the files of its package and what reading the signature as JSON gives. -/
structure Package where
  manifest : List (String × Json)
  files : List RelativePath
  distinct : files.Nodup
  signature : Except String Json

namespace Package

variable (sha256 : Sha256) (package : Package)

/-- The text that `json.dumps` with `sort_keys` gives for the manifest. -/
def manifestText : String :=
  String.ofList ((Json.obj package.manifest).sortKeys.write Marketplace.PackageManifest.spaced)

/-- The files are updated in the order of their paths, without anything between them. -/
def computePackageDigest : String :=
  sha256.hexdigest ((sortedBy RelativePath.parts package.files).foldl
    (fun text path => text ++ path.text) package.manifestText)

/-- The name of the type of a value that is no dict. -/
def typeName : Json → String
  | .null => "NoneType"
  | .bool _ => "bool"
  | .int _ => "int"
  | .float _ => "float"
  | .str _ => "str"
  | .arr _ => "list"
  | .obj _ => "dict"

def verifySignature : Bool × Option String :=
  if signaturePath ∉ package.files then (true, none)
  else
    match package.signature with
    | .error text => (false, some text)
    | .ok (.obj data) =>
        match data.lookup "digest" with
        | none => (false, some "signature.json missing digest")
        | some expected =>
            if expected.truthy = false then (false, some "signature.json missing digest")
            else
              match expected with
              | .str digest =>
                  if package.computePackageDigest sha256 ≠ digest then
                    (false, some "package digest mismatch")
                  else (true, none)
              | _ => (false, some "package digest mismatch")
    | .ok data => (false, some ("'" ++ typeName data ++ "' object has no attribute 'get'"))

/-- The package after its digest is stored beside other data in the signature. -/
def signed (data : List (String × Json)) : Package where
  manifest := package.manifest
  files := if signaturePath ∈ package.files then package.files else signaturePath :: package.files
  distinct := by
    split
    · exact package.distinct
    · rename_i new
      exact List.nodup_cons.mpr ⟨new, package.distinct⟩
  signature := .ok (.obj (("digest", .str (package.computePackageDigest sha256)) :: data))

end Package

end AgentFabric.Packages
