import MemoryRecorder.Text.Utf8
/-!
# File trees

The files a run reads are a tree: each node is named by the list of names from the root to
it, and is a directory, a regular file with its bytes, or a named pipe. The root is a
directory. Every proper prefix of a node's path is a directory of the tree, so a path can be
walked from the root, and a walk fails the way an operating system reports it: a missing
name, or a name that is not a directory but has more names after it.

A `Location` is a path as it is shown in messages, together with the names it walks. A walk
follows the names one by one: `..` steps back to the directory around the current one, every
name but the last must lead to a directory, and a path that ends in a slash must name a
directory. An absolute path walks the host's tree instead, of which a run sees only a few
standard directories and the empty device `/dev/null`; the working directory itself lies in the
host's `/tmp`, so `..` from its top leads there.
-/

namespace MemoryRecorder

inductive IoFault where
  | notFound
  | notDirectory
  | isDirectory
  | invalidUtf8
  deriving DecidableEq, Repr

namespace IoFault

def message : IoFault → String
  | notFound => "No such file or directory (os error 2)"
  | notDirectory => "Not a directory (os error 20)"
  | isDirectory => "Is a directory (os error 21)"
  | invalidUtf8 => "stream did not contain valid UTF-8"

end IoFault

inductive Node where
  | dir
  | file (bytes : List UInt8)
  | pipe
  deriving DecidableEq, Repr

/-- A tree of files: every node with its path from the root. -/
structure FileTree where
  nodes : List (List String × Node) := []
  deriving Repr

/-- A path as shown in messages and the names it walks, from the root of the tree or, when
`outside`, from the host's root; `dirOnly` when it ends in a slash. -/
structure Location where
  shown : String
  parts : List String
  outside : Bool := false
  dirOnly : Bool := false
  deriving Repr, DecidableEq

namespace Location

def join (l : Location) (name : String) : Location :=
  let sep := if l.shown.endsWith "/" || l.shown.isEmpty then "" else "/"
  { shown := l.shown ++ sep ++ name, parts := l.parts ++ [name], outside := l.outside }

def namesOf (s : String) : List String :=
  (s.splitOn "/").filter fun n => n ≠ "" ∧ n ≠ "."

def endsInSlash (s : String) : Bool :=
  s.endsWith "/" && !(namesOf s).isEmpty

def ofPath (s : String) : Location :=
  { shown := s, parts := namesOf s, outside := s.startsWith "/", dirOnly := endsInSlash s }

def under (base : Location) (s : String) : Location :=
  if s.startsWith "/" then ofPath s
  else
    { shown := if base.shown.isEmpty then s else base.shown ++ "/" ++ s
      parts := base.parts ++ namesOf s
      outside := base.outside
      dirOnly := endsInSlash s || (s.isEmpty && base.dirOnly) }

/-- The names with each `..` taken back lexically, as far as there is a name to take back. -/
def lexical (names : List String) : List String :=
  names.foldl (fun acc n => if n == ".." then acc.dropLast else acc ++ [n]) []

end Location

/-- A point a walk reaches: a path of the tree from its root, or a path of the host from its
root. -/
inductive Place where
  | tree (p : List String)
  | host (p : List String)
  deriving DecidableEq, Repr

namespace Place

/-- The directory around a place: the top of the tree lies in the host's `/tmp`, and the host's
root is its own parent. -/
def parent : Place → Place
  | tree [] => host ["tmp"]
  | tree p => tree p.dropLast
  | host p => host p.dropLast

def child (pl : Place) (n : String) : Place :=
  if n == ".." then pl.parent
  else
    match pl with
    | tree p => tree (p ++ [n])
    | host p => host (p ++ [n])

end Place

/-- The host's nodes a run can see: the root, a few standard directories, and `/dev/null`,
which reads as empty. -/
def hostNode? (p : List String) : Option Node :=
  match p with
  | [] => some .dir
  | ["dev"] | ["etc"] | ["proc"] | ["tmp"] | ["usr"] => some .dir
  | ["dev", "null"] => some (.file [])
  | _ => none

namespace FileTree

def find? (t : FileTree) (p : List String) : Option Node :=
  if p.isEmpty then some .dir else (t.nodes.find? (·.1 == p)).map (·.2)

def nodeAt? (t : FileTree) : Place → Option Node
  | .tree p => t.find? p
  | .host p => hostNode? p

/-- Walks names from a directory: each name but the last must lead to a directory. Gives the
place of the last name, which need not exist. -/
def walkFrom (t : FileTree) (pl : Place) : List String → Except IoFault Place
  | [] => .ok pl
  | [n] => .ok (pl.child n)
  | n :: rest =>
      let next := pl.child n
      match t.nodeAt? next with
      | some .dir => t.walkFrom next rest
      | some _ => .error .notDirectory
      | none => .error .notFound

def locate (t : FileTree) (l : Location) : Except IoFault Place :=
  t.walkFrom (if l.outside then .host [] else .tree []) l.parts

def resolve (t : FileTree) (l : Location) : Except IoFault Node :=
  match t.locate l with
  | .error e => .error e
  | .ok pl =>
      match t.nodeAt? pl with
      | none => .error .notFound
      | some n => if l.dirOnly && n != .dir then .error .notDirectory else .ok n

def «exists» (t : FileTree) (l : Location) : Bool :=
  match t.resolve l with
  | .ok _ => true
  | .error _ => false

/-- Whether a location names a pipe, whose reader waits until a writer opens it. -/
def isPipe (t : FileTree) (l : Location) : Bool :=
  match t.resolve l with
  | .ok .pipe => true
  | _ => false

/-- The bytes of a regular file. A directory opens but cannot be read; a pipe reads as what its
writer sent, nothing when it closed without writing. -/
def readBytes (t : FileTree) (l : Location) : Except IoFault (List UInt8) :=
  match t.resolve l with
  | .error e => .error e
  | .ok .dir => .error .isDirectory
  | .ok (.file bs) => .ok bs
  | .ok .pipe => .ok []

def readText (t : FileTree) (l : Location) : Except IoFault String :=
  match t.readBytes l with
  | .error e => .error e
  | .ok bs =>
      match Text.Utf8.decode? bs with
      | some s => .ok s
      | none => .error .invalidUtf8

def listDir (t : FileTree) (l : Location) : Except IoFault (List String) :=
  match t.resolve l, t.locate l with
  | .error e, _ => .error e
  | .ok .dir, .ok (.tree q) =>
      .ok (t.nodes.filterMap fun (p, _) =>
        if p.dropLast == q && p.length == q.length + 1 then p.getLast? else none)
  | .ok .dir, _ => .ok []
  | .ok _, _ => .error .notDirectory

def put (t : FileTree) (p : List String) (n : Node) : FileTree :=
  if (t.nodes.find? (·.1 == p)).isSome then
    ⟨t.nodes.map fun (q, m) => if q == p then (q, n) else (q, m)⟩
  else ⟨t.nodes ++ [(p, n)]⟩

/-- Makes every missing directory along a path; stops at a name that is not a directory. -/
def mkdirAll (t : FileTree) (p : List String) : FileTree :=
  go t [] p
where
  go (t : FileTree) (seen : List String) : List String → FileTree
    | [] => t
    | n :: rest =>
        let q := seen ++ [n]
        match t.find? q with
        | some .dir => go t q rest
        | some _ => t
        | none => go (t.put q .dir) q rest

def write (t : FileTree) (p : List String) (bs : List UInt8) : FileTree :=
  if p.isEmpty then t else (t.mkdirAll p.dropLast).put p (.file bs)

def makePipe (t : FileTree) (p : List String) : FileTree :=
  if p.isEmpty then t else (t.mkdirAll p.dropLast).put p .pipe

def remove (t : FileTree) (p : List String) : FileTree :=
  if p.isEmpty then t else ⟨t.nodes.filter fun (q, _) => !(p.isPrefixOf q)⟩

def filePaths (t : FileTree) : List (List String) :=
  t.nodes.filterMap fun (p, n) => if n == .dir then none else some p

end FileTree

end MemoryRecorder
