-- SUMMARY: SMB.get_version: smbd -V run in the container through call, and re.search of Version\s*([\d.]+) over its output, position by position.
import CephadmSmb.Python.Text

/-!
# The version probe

`SMB.get_version(ctx, container_id)` runs `smbd -V` inside a running container and
reads the version from what it prints: when the command exits with 0, group 1 of
`re.search(r'Version\s*([\d.]+)', out)`, and `None` otherwise or when nothing matches.

`re.search` tries the pattern at each position of the text from the left and returns
the first match (`Py.reSearch`). At one position the pattern is the literal `Version`,
then `\s*`, then the group `[\d.]+` (`versionAt`). Both repetitions are greedy and no
character is both whitespace and a digit or a dot, so backtracking never changes the
outcome: the match takes every blank after `Version`, and the group the longest run of
digits and dots after them. In a `str` pattern `\s` is `str.isspace` (`Py.isSpace`) and
`\d` a decimal digit of any script (`Py.isDecimal`).
-/

namespace CephadmSmb

namespace Py

/-- `re.search(pattern, text)`, given the pattern's match at the start of a text: the
    match at the first position of `text` where there is one. Every position is tried,
    the end of the text included. -/
def reSearch {α : Type} (matchAt : List Char → Option α) : List Char → Option α
  | [] => matchAt []
  | c :: cs =>
    match matchAt (c :: cs) with
    | some a => some a
    | none => reSearch matchAt cs

end Py

/-- `[\d.]` of the version pattern: a decimal digit of any script, or a dot. -/
def isVersionChar (c : Char) : Bool :=
  Py.isDecimal c || c == '.'

/-- `Version\s*([\d.]+)` matched at the start of `cs`: group 1, or `none`. -/
def versionAt (cs : List Char) : Option String :=
  (cs.dropPrefix? "Version".data).bind fun rest =>
    let g := (rest.dropWhile Py.isSpace).takeWhile isVersionChar
    if g = [] then none else some ⟨g⟩

/-- `SMB.daemon_base` -/
def daemonBase : String := "/usr/sbin/smbd"

/-- `SMB.get_version(ctx, container_id)`. `enginePath` is `ctx.container_engine.path`, and
    `call` answers a command line with what `call_wrappers.call` returns for it: the
    standard output, the standard error and the exit code. -/
def SMB.getVersion (call : List String → String × String × Int) (enginePath containerId : String) :
    Option String :=
  let (out, _, ret) := call [enginePath, "exec", containerId, daemonBase, "-V"]
  if ret = 0 then Py.reSearch versionAt out.data else none

example : SMB.getVersion (fun _ => ("Samba version 4.19 Version 4.19.6-SUSE\n", "", 0)) "podman" "c1" =
    some "4.19.6" := by decide

example : SMB.getVersion (fun _ => ("Version 4.19.6\n", "", 1)) "podman" "c1" = none := by decide

example : SMB.getVersion (fun _ => ("Version\u3000١٩.٤ x", "", 0)) "podman" "c1" = some "١٩.٤" := by
  decide

end CephadmSmb
