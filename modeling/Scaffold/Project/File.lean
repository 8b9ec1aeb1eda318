/-!
Generated files and what becomes of files that share a path: the first keeps the place, the last
gives the content.
-/
namespace Scaffold

structure File where
  path : String
  content : String
  deriving DecidableEq, Repr

def File.putIn (file : File) : List File → List File
  | [] => [file]
  | other :: rest => if other.path == file.path then file :: rest else other :: file.putIn rest

def resolve (files : List File) : List File :=
  files.foldl (fun resolved file => file.putIn resolved) []

def lastAt? (path : String) (files : List File) : Option File :=
  files.reverse.find? (·.path == path)

structure PathLog where
  seen : List String := []
  again : List String := []
  deriving DecidableEq, Repr

def PathLog.note (log : PathLog) (file : File) : PathLog :=
  if !log.seen.contains file.path then { log with seen := file.path :: log.seen }
  else if log.again.contains file.path then log
  else { log with again := log.again ++ [file.path] }

def repeatedPaths (files : List File) : List String :=
  (files.foldl PathLog.note {}).again

end Scaffold
