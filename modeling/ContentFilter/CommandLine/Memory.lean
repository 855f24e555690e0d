import ContentFilter.CommandLine.Run

/-!
A world of files in memory, under paths from one directory. A directory exists where a file lies in
it.
-/

namespace ContentFilter.CommandLine

structure Memory where
  files : KeyMap (List UInt8) := .empty
  /-- The time of its clock. -/
  now : Nat := 0

namespace Memory

/-- The steps of a path from the directory, without those that lead nowhere. -/
def steps (path : String) : List (List Char) :=
  ((Text.splitOn '/' path.toList).foldl (fun done step =>
    if step.isEmpty || step == ['.'] then done
    else if step == ['.', '.'] then done.dropLast
    else done ++ [step]) [])

/-- The one path among those that lead to the same place. -/
def place (path : String) : String := "/".intercalate ((steps path).map String.ofList)

def isDirectory (memory : Memory) (place : String) : Bool :=
  place.isEmpty || memory.files.keys.any fun key => Text.startsWith (place ++ "/") key.toList

/-- Whether the way to a place leads through a file. -/
def isBelowFile (memory : Memory) (place : String) : Bool :=
  memory.files.keys.any fun key => Text.startsWith (key ++ "/") place.toList

/-- Whether a path can only be the path of a directory. -/
def asksDirectory (path : String) : Bool := path.toList.getLast? == some '/'

def missing (memory : Memory) (place : String) : FileError :=
  if memory.isBelowFile place then .notDirectory else .notFound

def read (path : String) (memory : Memory) : Except FileError (List UInt8) :=
  match memory.files.get? (place path) with
  | some data => if asksDirectory path then .error .notDirectory else .ok data
  | none =>
    if path.isEmpty then .error .notFound
    else if memory.isDirectory (place path) then .error .isDirectory
    else .error (memory.missing (place path))

def write (path : String) (data : List UInt8) (memory : Memory) :
    Except FileError Unit × Memory :=
  if path.isEmpty then (.error .notFound, memory)
  else if memory.isDirectory (place path) then (.error .isDirectory, memory)
  else if memory.isBelowFile (place path) then (.error .notDirectory, memory)
  else if asksDirectory path then
    (.error (if (memory.files.get? (place path)).isSome then .notDirectory else .isDirectory), memory)
  else (.ok (), { memory with files := memory.files.insert (place path) data })

def makeDirectory (path : String) (memory : Memory) : Except FileError Unit :=
  if (memory.files.get? (place path)).isSome then .error .alreadyExists
  else if memory.isBelowFile (place path) then .error .notDirectory
  else .ok ()

/-- The commands' view of the files. Nothing can be downloaded. -/
def world : World (StateM Memory) where
  read path := do pure ((← get).read path)
  write path data := modifyGet fun memory => memory.write path data
  makeDirectory path := do pure ((← get).makeDirectory path)
  now := do pure (← get).now
  download url := pure (.error (.unreachable url))

end Memory

end ContentFilter.CommandLine
