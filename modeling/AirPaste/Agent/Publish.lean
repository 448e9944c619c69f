/-
# Agent.Publish — from a selection to a manifest

`collect_publish_files` flattens a selection into its regular files, each with its
relative path within the clip and its path on the source; directories are walked
recursively in the order of their names.  `publish_file_manifest` checks the limits,
hashes the files, registers their paths under a fresh token and creates the clip.
`SourceFiles` is the file system of the source: what it finds at an input, as a tree
whose depth is finite because links are not followed, and what reading a path yields.
-/
import Mathlib.Data.List.Sort
import AirPaste.Agent.Download
import AirPaste.Agent.Peer

namespace AirPaste.Agent

open AirPaste.Core
open AirPaste.Theory

set_option autoImplicit false

mutual

/-- What is found at a path without following links. -/
inductive SourceNode (N : Type) where
  | file
  | dir (entries : SourceEntries N)
  /-- A directory that cannot be read. -/
  | unreadable
  /-- Neither a regular file nor a directory. -/
  | other
  /-- Nothing that `symlink_metadata` can tell about. -/
  | missing

/-- The entries of a directory. -/
inductive SourceEntries (N : Type) where
  | nil
  | cons (name : N) (node : SourceNode N) (rest : SourceEntries N)

end

structure SourceFiles (N : Type) where
  found : LexPath N → SourceNode N
  /-- The length in the metadata. -/
  size : LexPath N → Option Nat
  contents : LexPath N → Option (List UInt8)
  toStringLossy : N → String
  display : LexPath N → String
  /-- The order of names. -/
  le : N → N → Bool

/-- A file collected: its relative path within the clip, and its path on the source. -/
abbrev Collected (N : Type) := String × LexPath N

section Collect

variable {N : Type} (source : SourceFiles N)

/-- Run through the results of a directory, up to the first error. -/
def concatResults : List (Except String (List (Collected N))) → Except String (List (Collected N))
  | [] => .ok []
  | result :: rest => do
      let here ← result
      let later ← concatResults rest
      return here ++ later

mutual

/-- What an input or an entry of a directory contributes. -/
def walkPublish : SourceNode N → LexPath N → String → Except String (List (Collected N))
  | .file, path, rel => .ok [(rel, path)]
  | .dir entries, path, rel =>
      concatResults (((walkPublishDir entries path rel).insertionSort
        fun a b => source.le a.1 b.1).map Prod.snd)
  | .unreadable, path, _ => .error s!"failed to read directory {source.display path}"
  | .other, _, _ => .ok []
  | .missing, path, _ => .error s!"failed to stat {source.display path}"

/-- The entries of a directory, each with what it contributes. -/
def walkPublishDir : SourceEntries N → LexPath N → String →
    List (N × Except String (List (Collected N)))
  | .nil, _, _ => []
  | .cons name node rest, dir, relPrefix =>
      (name, walkPublish node (dir.child name) (relPrefix ++ "/" ++ source.toStringLossy name)) ::
        walkPublishDir rest dir relPrefix

end

def collectPublishFiles : List (LexPath N) → Except String (List (Collected N))
  | [] => .ok []
  | input :: rest => do
      let base := ((input.fileName.map source.toStringLossy).filter (· ≠ "")).getD "item"
      let here ← walkPublish source (source.found input) input base
      let later ← collectPublishFiles rest
      return here ++ later

end Collect

section Publish

variable {N : Type} (source : SourceFiles N) (sha256 : List UInt8 → List UInt8)

/-- The display name of a relative path. -/
def displayName (relativePath : String) : String :=
  (LexPath.parse relativePath).fileName.getD "unnamed"

/-- The manifest entries of the files collected, and the size of them all. -/
def manifestEntries (filePolicy : FileTransferPolicy) :
    List (Collected N) → Nat → Except String (List FileEntry × Nat)
  | [], totalSize => .ok ([], totalSize)
  | (relativePath, sourcePath) :: rest, totalSize => do
      let size := (source.size sourcePath).getD 0
      ensure (size ≤ filePolicy.maxSingleFileBytes)
        s!"file {source.display sourcePath} is {size} bytes, above configured single-file limit {filePolicy.maxSingleFileBytes}"
      let totalSize := min (totalSize + size) u64Max
      ensure (totalSize ≤ filePolicy.maxTotalFileBytes)
        s!"file selection is {totalSize} bytes, above configured limit {filePolicy.maxTotalFileBytes}"
      let bytes ← okOr (source.contents sourcePath)
        s!"failed to hash file {source.display sourcePath}"
      let (entries, totalSize) ← manifestEntries filePolicy rest totalSize
      return (⟨relativePath, displayName relativePath, size, none,
        some (hexLower (sha256 bytes)), .file⟩ :: entries, totalSize)

/-- What a publisher asks of the outside, besides its files. -/
structure PublishAnswers where
  transferToken : TransferToken
  now : Timestamp
  /-- The clock readings of the registry. -/
  registerNow : Timestamp
  registerLater : Timestamp
  /-- `trusted_device_public_keys`. -/
  trustedKeys : Option (DeviceId → Option String)
  /-- `create_clip`, of the manifest. -/
  createClip : FileClip → Option ClipId

/-- The manifest of a selection and the paths served for it, unless nothing of it can
be transferred. -/
def fileManifest (filePolicy : FileTransferPolicy) (peerPublicUrl : String)
    (answers : PublishAnswers) (paths : List (LexPath N)) :
    Except String (Option (FileClip × List (LexPath N))) := do
  let collected ← collectPublishFiles source paths
  if collected.isEmpty then return none
  ensure (collected.length ≤ filePolicy.maxFileCount)
    s!"file selection expands to {collected.length} files, above configured limit {filePolicy.maxFileCount}"
  let (files, totalSize) ← manifestEntries source sha256 filePolicy collected 0
  return some
    ({ files := files
       totalSize := totalSize
       transferToken := answers.transferToken
       sourcePeerUrl := some (String.ofList (Text.dropEnd (· == '/') peerPublicUrl.toList))
       transferExpiresAt :=
         some (answers.now + seconds (min filePolicy.transferTokenTtlSecs i64Max : Nat)) },
     collected.map Prod.snd)

/-- The manifest published, if one is, and the registry afterwards. -/
def publishFileManifest (deviceId : DeviceId) (registry : PeerFileRegistry (LexPath N))
    (filePolicy : FileTransferPolicy) (peerPublicUrl : String) (answers : PublishAnswers)
    (paths : List (LexPath N)) :
    Except Failure (Option FileClip) × PeerFileRegistry (LexPath N) :=
  match fileManifest source sha256 filePolicy peerPublicUrl answers paths with
  | .error message => (.error (.text message), registry)
  | .ok none => (.ok none, registry)
  | .ok (some (fileClip, servedPaths)) =>
      match answers.trustedKeys with
      | none => (.error .network, registry)
      | some keys =>
          let registry := registry.register answers.registerNow answers.registerLater
            fileClip.transferToken none deviceId keys servedPaths filePolicy.transferTokenTtl
          match answers.createClip fileClip with
          | none => (.error .network, registry)
          | some clipId => (.ok (some fileClip), registry.bindClipId fileClip.transferToken clipId)

end Publish

end AirPaste.Agent
