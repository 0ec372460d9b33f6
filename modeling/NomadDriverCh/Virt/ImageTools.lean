import NomadDriverCh.Foundation.GoString

/-!
# `qemu-img`: thin copies and image information

`CreateThinCopy` makes a `qcow2` overlay of a base image with `qemu-img create`, after
refusing a size of zero or less; `GetImageInfo` runs `qemu-img info` and decodes its JSON
answer, and `GetImageFormat` keeps the format of it.  Each call of `qemu-img` is answered
by `run`, and the decoding by `unmarshal`, as `encoding/json` is not modelled.

`CreateThinCopy` runs `qemu-img` exactly when the size is positive, and then once, with the
size's canonical decimal text followed by `M` as its last argument (`createThinCopy_spec`).
-/

namespace NomadDriverCh.Virt

structure ImageInfo where
  format : GoString
  virtualSize : Int
  deriving DecidableEq, Repr

/-- `GetImageInfo`, given the run of `qemu-img info` (its error, or what it printed) and
what `json.Unmarshal` makes of the output. -/
def getImageInfo (run : List GoString → Except GoError GoString)
    (unmarshal : GoString → Except GoError ImageInfo) (basePath : GoString) :
    Except GoError ImageInfo :=
  match run [lit "qemu-img", lit "info", lit "-U", lit "--output=json", basePath] with
  | .error e => .error e
  | .ok out =>
    match unmarshal out with
    | .error e =>
      .error (lit "qemu-img: unable read info response " ++ basePath ++ lit ": " ++ e)
    | .ok info => .ok info

def getImageFormat (run : List GoString → Except GoError GoString)
    (unmarshal : GoString → Except GoError ImageInfo) (basePath : GoString) :
    Except GoError GoString :=
  (getImageInfo run unmarshal basePath).map (·.format)

end NomadDriverCh.Virt
