import AnalysisHarness.Path
import AnalysisHarness.Shell.State

/-!
# Programs on files

The programs that show, make, copy, move and remove files. What they cannot do they complain about
on the second descriptor, and go on with their next argument.
-/

namespace AnalysisHarness
namespace Shell

open Text

def splitOptions (arguments : List String) : List String × List String :=
  let isOption (a : String) : Bool := startsWithHyphen a && a != "-" && a != "--"
  (arguments.filter isOption, arguments.filter fun a => !isOption a && a != "--")
where
  startsWithHyphen (a : String) : Bool := a.toList.head? == some '-'

def hasLetter (options : List String) (c : Char) : Bool :=
  options.any fun o => o.toList.contains c

def quoteName (path : String) : String := "'" ++ path ++ "'"

/-- Does something for each argument. The exit code is zero only if nothing fails. -/
def forEachArgument (act : State -> String -> State) (arguments : List String) (s : State) :
    State :=
  let (s, worst) := arguments.foldl
    (fun (s, worst) a =>
      let s := act (s.withStatus 0) a
      (s, Nat.max worst s.status))
    (s, 0)
  s.withStatus worst

def catFile (s : State) (path : String) : State :=
  if path = "-" then
    let (bytes, s) := s.drain 0
    s.emit 1 bytes
  else
    match s.view.read path with
    | .ok bytes =>
        if !bytes.isEmpty && leadsToOutput path then
          s.fail ("cat: " ++ path ++ ": input file is output file")
        else s.emit 1 bytes
    | .error e => s.fail ("cat: " ++ path ++ ": " ++ reasonOf e)
where
  leadsToOutput (path : String) : Bool :=
    let output := ((s.handle? 1).bind fun handle => s.opened[handle]?).map OpenFile.node
    output.isSome && (s.view.find path).toOption == output

def removeFile (recursive force : Bool) (s : State) (path : String) : State :=
  let w := s.view
  match w.locateFrom w.current false path with
  | .error e =>
      if force && (e == .notFound || e == .notDirectory) then s
      else s.fail ("rm: cannot remove " ++ quoteName path ++ ": " ++ reasonOf e)
  | .ok (.vacant _ _) =>
      if force then s
      else s.fail ("rm: cannot remove " ++ quoteName path ++ ": No such file or directory")
  | .ok (.found id) =>
      if w.isDirectoryNode id then
        if recursive then
          match w.parentFrom w.current path with
          | .ok (directory, name) => s.withFiles (w.dropEntry directory name)
          | .error e => s.fail ("rm: cannot remove " ++ quoteName path ++ ": " ++ reasonOf e)
        else s.fail ("rm: cannot remove " ++ quoteName path ++ ": Is a directory")
      else
        match w.remove path with
        | .ok w => s.withFiles w
        | .error e => s.fail ("rm: cannot remove " ++ quoteName path ++ ": " ++ reasonOf e)

def makeDirectory (parents : Bool) (s : State) (path : String) : State :=
  let w := s.view
  let made :=
    if parents then w.makeDirectoriesFrom w.current path else w.makeDirectoryFrom w.current path
  match made with
  | .ok w => s.withFiles w
  | .error e => s.fail ("mkdir: cannot create directory " ++ quoteName path ++ ": " ++ reasonOf e)

def removeDirectory (s : State) (path : String) : State :=
  let w := s.view
  let refuse (e : IoError) : State :=
    s.fail ("rmdir: failed to remove " ++ quoteName path ++ ": " ++ reasonOf e)
  match w.find path with
  | .error e => refuse e
  | .ok id =>
      if !w.isDirectoryNode id then refuse .notDirectory
      else if !(w.entriesOf id).isEmpty then refuse .directoryNotEmpty
      else
        match w.parentFrom w.current path with
        | .ok (directory, name) => s.withFiles (w.dropEntry directory name)
        | .error e => refuse e

def touchFile (s : State) (path : String) : State :=
  if s.view.exists? path then s
  else
    match s.view.openFile path with
    | .ok (w, _) => s.withFiles w
    | .error e => s.fail ("touch: cannot touch " ++ quoteName path ++ ": " ++ reasonOf e)

def lastName (path : String) : String :=
  ((Workspace.trimmedComponents path).getLast?).getD path

def destination (w : Workspace) (source target : String) : String :=
  if w.isDirectory target then Path.join target (lastName source) else target

/-- Everything in a directory copied into another one, by the names on the way. -/
def copyTree : Nat -> NodeId -> NodeId -> Workspace -> Workspace
  | 0, _, _, w => w
  | fuel + 1, source, target, w =>
      (w.entriesOf source).foldl
        (fun w (name, id) =>
          match w.node? id with
          | some (.directory _ _) =>
              let (w, made) := w.addNode (.directory target .empty)
              copyTree fuel id made (w.putEntry target name made)
          | some node =>
              let (w, made) := w.addNode node
              w.putEntry target name made
          | none => w)
        w

def copyDirectory (target : String) (s : State) (source : String) : State :=
  let w := s.view
  let path := destination w source target
  let refuse (e : IoError) : State :=
    s.fail ("cp: cannot create directory " ++ quoteName path ++ ": " ++ reasonOf e)
  match w.find source, w.makeDirectoryFrom w.current path with
  | .error e, _ => s.fail ("cp: cannot stat " ++ quoteName source ++ ": " ++ reasonOf e)
  | _, .error e => refuse e
  | .ok id, .ok w =>
      match w.find path with
      | .error e => refuse e
      | .ok made => s.withFiles (copyTree (w.nodes.length + 1) id made w)

def copyFile (recursive : Bool) (target : String) (s : State) (source : String) : State :=
  let w := s.view
  match w.read source with
  | .error .isDirectory =>
      if recursive then copyDirectory target s source
      else s.fail ("cp: -r not specified; omitting directory " ++ quoteName source)
  | .error e => s.fail ("cp: cannot stat " ++ quoteName source ++ ": " ++ reasonOf e)
  | .ok bytes =>
      match w.write (destination w source target) bytes with
      | .ok w => s.withFiles w
      | .error e =>
          s.fail ("cp: cannot create regular file " ++ quoteName target ++ ": " ++ reasonOf e)

def moveFile (target : String) (s : State) (source : String) : State :=
  let w := s.view
  let refuse (e : IoError) : State :=
    s.fail ("mv: cannot stat " ++ quoteName source ++ ": " ++ reasonOf e)
  match w.locateFrom w.current false source with
  | .error e => refuse e
  | .ok (.vacant _ _) => refuse .notFound
  | .ok (.found id) =>
      match w.parentFrom w.current source, w.parentFrom w.current (destination w source target) with
      | .ok (oldDirectory, oldName), .ok (newDirectory, newName) =>
          s.withFiles ((w.dropEntry oldDirectory oldName).putEntry newDirectory newName id)
      | .error e, _ => refuse e
      | _, .error e =>
          s.fail ("mv: cannot move " ++ quoteName source ++ " to " ++ quoteName target ++ ": " ++
            reasonOf e)

def toTarget (act : String -> State -> String -> State) (arguments : List String)
    (s : State) : State :=
  match arguments.getLast? with
  | none => s.withStatus 1
  | some target => forEachArgument (act target) arguments.dropLast s

def misused (program reason : String) (s : State) : State :=
  (s.say 2 (program ++ ": " ++ reason ++ "\nTry '" ++ program ++
    " --help' for more information.\n")).withStatus 1

def withOperands (program what : String) (operands : List String) (run : State -> State)
    (s : State) : State :=
  if operands.isEmpty then misused program ("missing " ++ what) s else run s

def withTarget (program : String) (operands : List String) (run : State -> State)
    (s : State) : State :=
  match operands with
  | [] => misused program "missing file operand" s
  | [a] => misused program ("missing destination file operand after " ++ quoteName a) s
  | _ => run s

/-- Waits, which takes no time here. Every argument has to be a time. -/
def wait (arguments : List String) (s : State) : State :=
  match arguments.find? fun a => !isTime a with
  | some a => misused "sleep" ("invalid time interval " ++ quoteName a) s
  | none => s.withStatus 0
where
  isTime (text : String) : Bool :=
    let number := dropEndWhile (fun c => ['s', 'm', 'h', 'd'].contains c) text.toList
    let digits := number.filter Char.isDigit
    !digits.isEmpty && text.length ≤ number.length + 1 &&
      (number.filter (!Char.isDigit ·)).all (· == '.') && number.count '.' ≤ 1

/-- Changes who may do what with a file, which makes no difference here. -/
def changeMode (s : State) (path : String) : State :=
  match s.view.find path with
  | .ok _ => s
  | .error e => s.fail ("chmod: cannot access " ++ quoteName path ++ ": " ++ reasonOf e)

def makeLinkTo (symbolic : Bool) (arguments : List String) (s : State) : State :=
  let w := s.view
  let refuse (path : String) (e : IoError) : State :=
    s.fail ("ln: failed to create " ++ (if symbolic then "symbolic" else "hard") ++ " link " ++
      quoteName path ++ ": " ++ reasonOf e)
  match arguments with
  | [target, path] =>
      let path := destination w target path
      match w.locateFrom w.current false path with
      | .ok (.found _) => refuse path .alreadyExists
      | .error e => refuse path e
      | .ok (.vacant directory name) =>
          if symbolic then
            match w.makeLink path target with
            | .ok w => s.withFiles w
            | .error e => refuse path e
          else
            match w.find target with
            | .ok id => s.withFiles (w.putEntry directory name id)
            | .error e =>
                s.fail ("ln: failed to access " ++ quoteName target ++ ": " ++ reasonOf e)
  | _ => s.withStatus 1

def listing (options : List String) (s : State) (id : NodeId) : String :=
  let names := (s.files.listing id).keys
  let everything := hasLetter options 'a'
  let shown := names.filter fun n =>
    everything || hasLetter options 'A' || n.toList.head? != some '.'
  String.join (((if everything then [".", ".."] else []) ++ shown).map (· ++ "\n"))

def listAll (options unsorted : List String) (s : State) : State :=
  let paths := unsorted.mergeSort fun a b => !Text.precedes b a
  let found := paths.filterMap fun path => (s.view.find path).toOption.map fun id => (path, id)
  let isListed (entry : String × NodeId) : Bool :=
    s.files.isDirectoryNode entry.2 && !hasLetter options 'd'
  let s := paths.foldl
    (fun s path =>
      match s.view.find path with
      | .ok _ => s
      | .error e =>
          (s.fail ("ls: cannot access " ++ quoteName path ++ ": " ++ reasonOf e)).withStatus 2)
    (s.withStatus 0)
  let plain := (found.filter (!isListed ·)).map fun entry => entry.1 ++ "\n"
  let directories := found.filter isListed
  let blocks := directories.map fun (path, id) =>
    if 1 < paths.length then path ++ ":\n" ++ listing options s id else listing options s id
  let first := if plain.isEmpty then [] else [String.join plain]
  s.say 1 (String.intercalate "\n" (first ++ blocks))

def baseName (path ending : String) : String :=
  let name := lastName path
  let stem := (name.toList.take (name.length - ending.length))
  if ending ≠ "" ∧ stem ≠ [] ∧ stem ++ ending.toList = name.toList then String.ofList stem
  else name

def directoryName (path : String) : String :=
  let folder := dropEndWhile (· != '/') (dropEndWhile (· == '/') path.toList)
  let before := dropEndWhile (· == '/') folder
  if before.isEmpty then if path.toList.head? = some '/' then "/" else "."
  else String.ofList before

def runUtility? (name : String) (arguments : List String) (s : State) : Option State :=
  let (options, paths) := splitOptions arguments
  match name with
  | "cat" => some (forEachArgument catFile (if paths.isEmpty then ["-"] else paths) s)
  | "rm" =>
      let recursive := hasLetter options 'r' || hasLetter options 'R'
      let force := hasLetter options 'f'
      if paths.isEmpty && force then some (s.withStatus 0)
      else
        some (withOperands "rm" "operand" paths
          (forEachArgument (removeFile recursive force) paths) s)
  | "mkdir" =>
      some (withOperands "mkdir" "operand" paths
        (forEachArgument (makeDirectory (hasLetter options 'p')) paths) s)
  | "rmdir" =>
      some (withOperands "rmdir" "operand" paths (forEachArgument removeDirectory paths) s)
  | "touch" =>
      some (withOperands "touch" "file operand" paths (forEachArgument touchFile paths) s)
  | "cp" =>
      let recursive := options.any fun o => hasLetter [o] 'r' || hasLetter [o] 'R' || o == "-a"
      some (withTarget "cp" paths (toTarget (copyFile recursive) paths) s)
  | "mv" => some (withTarget "mv" paths (toTarget moveFile paths) s)
  | "ln" =>
      some (withOperands "ln" "file operand" paths
        (makeLinkTo (hasLetter options 's') paths) s)
  | "ls" => some (listAll options (if paths.isEmpty then ["."] else paths) s)
  | "basename" =>
      let name := baseName (paths.head?.getD "") ((paths.drop 1).head?.getD "")
      some ((s.say 1 (name ++ "\n")).withStatus 0)
  | "dirname" =>
      some ((s.say 1 (String.join (paths.map fun p => directoryName p ++ "\n"))).withStatus 0)
  | "chmod" =>
      some (forEachArgument changeMode ((arguments.drop 1).filter fun a => a != "--") s)
  | "sleep" => some (withOperands "sleep" "operand" arguments (wait arguments) s)
  | "sync" => some (s.withStatus 0)
  | _ => none

end Shell
end AnalysisHarness
