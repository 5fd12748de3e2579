import DatafusionRay.Foundation.WorkList
import DatafusionRay.Streaming.FileSystem

/-! Copying a directory from one storage to another. The queue holds the directories,
relative to both roots, whose entries are still to be copied. -/

namespace DatafusionRay.Streaming
open Foundation Threaded

section Copy
variable {θ ν : Type} (sourceSystem : FileSystemStorage θ ν) (sourceDir : Path ν)
  (destinationSystem : FileSystemStorage θ ν) (destDir : Path ν)

/-- The body of the loop over the entries of a directory. The top of the queue stands first. -/
def copyEntry (next : Path ν) (queue : List (Path ν)) (entry : FileSystemEntry ν) :
    Threaded θ DataFusionError (List (Path ν)) :=
  let entrySourcePath := (sourceDir.join next).join (.relative [entry.name])
  let entryDestPath := (destDir.join next).join (.relative [entry.name])
  if entry.directory then do
    destinationSystem.mkdirAll entryDestPath
    return next.join (.relative [entry.name]) :: queue
  else do
    let contents ← sourceSystem.readFile entrySourcePath
    destinationSystem.writeFile entryDestPath contents
    return queue

def copyNext (next : Path ν) (queue : List (Path ν)) : Threaded θ DataFusionError (List (Path ν)) := do
  let entries ← sourceSystem.listFiles (sourceDir.join next)
  entries.foldlM (copyEntry sourceSystem sourceDir destinationSystem destDir next) queue

/-- There is no result if the fuel does not last for all directories. -/
def copyDirBetweenSystems (fuel : Nat) (systems : θ) : Option (Except DataFusionError Unit × θ) :=
  match (destinationSystem.mkdirAll destDir).outcome systems with
  | (.error error, after) => some (.error error, after)
  | (.ok (), after) =>
    workList (copyNext sourceSystem sourceDir destinationSystem destDir) fuel [.relative []] after

end Copy

end DatafusionRay.Streaming
