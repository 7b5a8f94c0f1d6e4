import VirtueStack.Agent.Host
import VirtueStack.Shared.Mentions

/-!
# The storage backends of a node agent (nodeagent/storage)

One manager for each backend: RBD images (rbd.go), QCOW2 files (qcow.go) and LVM thin volumes
(lvm.go). They implement one interface, `StorageBackend`, and each has its own idea of what the name
of a disk is.

* `Job.wrapping`, `onCmd`, `cmd` one command, and what becomes of its error;
* `cloneForVM` the disk of a VM from a template (template.go, qcow_template.go, lvm_template.go).

The methods that no handler calls (flattening, importing, statistics of the pools) are left out.
-/

namespace VirtueStack.Agent
open Txn Call

namespace Job
variable {α : Type}

/-- how a call goes on whose error gets a context -/
def withContext (context : String) : Except GoError α → Job α
  | .ok a => .pure a
  | .error e => fail (.wrap context e)

def wrapping (context : String) (c : Job α) : Job α := attempt c (withContext context)

def logged (c : Job α) : Job Unit := attempt c fun _ => .pure ()

def warning (w : Warning) : Except GoError α → Job Unit
  | .ok _ => .pure ()
  | .error _ => stmt (S := store) (.warn w) Err.error

/-- a clean-up: the log has a line when it fails -/
def cleanup (w : Warning) (c : Job α) : Job Unit := attempt c (warning w)

def lift : Except GoError α → Job α
  | .ok a => .pure a
  | .error e => fail e

def when (b : Bool) (c : Job Unit) : Job Unit := if b then c else .pure ()

end Job

open Job

/-- one command, and how the agent goes on with its answer or its error -/
def onCmd {α : Type} (q : Cmd) (k : Except Err q.Ans → Job α) : Job α := Prog.req (.run q) k

def cmd (context : String) (q : Cmd) : Job q.Ans :=
  stmt (S := store) q fun e => .wrap context e.error

/-- the context is the one of the caller -/
def rawCmd (q : Cmd) : Job q.Ans := stmt (S := store) q Err.error

def vmDiskName (vmID : String) : String := "vs-" ++ vmID ++ "-disk0"

/-! ## RBD -/

structure RBDManager where
  pool : String

namespace RBDManager

def openIOContext (pool : String) : Job Unit :=
  cmd ("opening IO context for pool " ++ quoted pool) (.openIOContext pool)

variable (m : RBDManager)

def cloneFromTemplate (sourcePool sourceImage sourceSnap targetImage : String) : Job Unit := do
  let source := sourcePool ++ "/" ++ sourceImage ++ "@" ++ sourceSnap
  wrapping ("cloning template " ++ source) (openIOContext sourcePool)
  wrapping ("cloning template " ++ source) (openIOContext m.pool)
  cmd ("cloning template " ++ source ++ " to " ++ targetImage)
    (.cloneImage sourcePool sourceImage sourceSnap m.pool targetImage)

def resize (m : RBDManager) (imageName : String) (newSizeGB : Int) : Job Unit := do
  wrapping ("resizing image " ++ imageName) (openIOContext m.pool)
  cmd ("opening image " ++ imageName ++ " for resize") (.openImage m.pool imageName)
  cmd ("resizing image " ++ imageName ++ " to " ++ toString newSizeGB ++ "GB")
    (.resizeImage m.pool imageName newSizeGB)

def removeSnapshots (m : RBDManager) (imageName : String) : List String → Job Unit
  | [] => .pure ()
  | snap :: rest => do
    let isProtected ← cmd ("checking protection of snapshot " ++ imageName ++ "@" ++ snap)
      (.isProtected m.pool imageName snap)
    when isProtected
      (cmd ("unprotecting snapshot " ++ imageName ++ "@" ++ snap)
        (.unprotect m.pool imageName snap))
    cmd ("removing snapshot " ++ imageName ++ "@" ++ snap) (.removeSnapshot m.pool imageName snap)
    m.removeSnapshots imageName rest

variable (imageName : String)

def removeAllSnapshots : Job Unit := do
  let snaps ← cmd ("listing snapshots of " ++ imageName) (.getSnapshotNames m.pool imageName)
  m.removeSnapshots imageName snaps

def delete : Job Unit := do
  wrapping ("deleting image " ++ imageName) (openIOContext m.pool)
  cmd ("opening image " ++ imageName ++ " for deletion") (.openImage m.pool imageName)
  wrapping ("deleting image " ++ imageName) (m.removeAllSnapshots imageName)
  cmd ("removing image " ++ imageName) (.removeImage m.pool imageName)

def createSnapshot (m : RBDManager) (imageName snapName : String) : Job Unit := do
  let context := "creating snapshot " ++ imageName ++ "@" ++ snapName
  wrapping context (openIOContext m.pool)
  cmd ("opening image " ++ imageName ++ " for snapshot") (.openImage m.pool imageName)
  cmd context (.createSnapshot m.pool imageName snapName)

def deleteSnapshot (snapName : String) : Job Unit := do
  let context := "deleting snapshot " ++ imageName ++ "@" ++ snapName
  wrapping context (openIOContext m.pool)
  cmd ("opening image " ++ imageName ++ " for snapshot deletion") (.openImage m.pool imageName)
  cmd context (.removeSnapshot m.pool imageName snapName)

/-- the protection of each snapshot is read too; no caller uses it -/
def checkSnapshots (m : RBDManager) (imageName : String) : List String → Job Unit
  | [] => .pure ()
  | snap :: rest => do
    let _ ← cmd ("checking protection of " ++ imageName ++ "@" ++ snap)
      (.isProtected m.pool imageName snap)
    m.checkSnapshots imageName rest

def listSnapshots : Job (List String) := do
  wrapping ("listing snapshots of " ++ imageName) (openIOContext m.pool)
  cmd ("opening image " ++ imageName ++ " for listing snapshots") (.openImage m.pool imageName)
  let snaps ← cmd ("getting snapshot names for " ++ imageName) (.getSnapshotNames m.pool imageName)
  m.checkSnapshots imageName snaps
  return snaps

def getImageSize : Job Int := do
  wrapping ("getting size of image " ++ imageName) (openIOContext m.pool)
  cmd ("opening image " ++ imageName ++ " to get size") (.openImage m.pool imageName)
  cmd ("getting size of image " ++ imageName) (.getSize m.pool imageName)

def rollback (m : RBDManager) (imageName snapshotName : String) : Job Unit := do
  wrapping "opening IO context for rollback" (openIOContext m.pool)
  cmd ("opening image " ++ quoted imageName ++ " for rollback") (.openImage m.pool imageName)
  cmd ("rolling back image " ++ quoted imageName ++ " to snapshot " ++ quoted snapshotName)
    (.rollback m.pool imageName snapshotName)

end RBDManager

/-! ## QCOW2 -/

structure QCOWManager where
  basePath : String

def vmDiskFile (vmID : String) : String := vmID ++ "-disk0.qcow2"

namespace QCOWManager

variable (m : QCOWManager) (imageName : String)

def imagePath : String :=
  if isAbs imageName then imageName else join m.basePath imageName

def diskIdentifier (vmID : String) : String := join m.basePath ("vms/" ++ vmDiskFile vmID)

/-- how a method goes on after `os.Stat` -/
def statted (notFound checking : String) : Except Err Unit → Job Unit
  | .ok _ => .pure ()
  | .error .notExist => fail (.wrap ("NOT_FOUND: " ++ notFound) Err.notExist.error)
  | .error e => fail (.wrap checking e.error)

def verifyImage : Job Unit :=
  onCmd (.stat (m.imagePath imageName))
    (statted ("image " ++ quoted imageName) ("checking image " ++ quoted (m.imagePath imageName)))

def qemuImg (context : String) (q : Cmd) : Job q.Ans :=
  wrapping context (cmd "command \"qemu-img\" failed" q)

def isBelow (path : String) : Bool :=
  (m.basePath ++ "/").toList.isPrefixOf path.toList || path = m.basePath

/-- the path of a template; a relative directory is below the base path -/
def templatePath (sourcePool sourceImage : String) : String :=
  if isAbs sourcePool then join sourcePool sourceImage
  else join m.basePath (sourcePool ++ "/" ++ sourceImage)

def cloneFromTemplate (sourcePool sourceImage targetImage : String) : Job Unit :=
  let template := m.templatePath sourcePool sourceImage
  if m.isBelow template then do
    onCmd (.stat template)
      (statted ("template " ++ quoted template) ("checking template " ++ quoted template))
    qemuImg ("cloning template to " ++ targetImage) (.qemuCreate template (m.imagePath targetImage))
  else fail (.new ("template path " ++ quoted template ++
    " is outside the allowed base directory " ++ quoted m.basePath))

def invalidSize (sizeGB : Int) : GoError :=
  .new ("INVALID_ARGUMENT: invalid size " ++ toString sizeGB ++ " GB, must be positive")

def resize (newSizeGB : Int) : Job Unit :=
  if newSizeGB ≤ 0 then fail (invalidSize newSizeGB)
  else do
    m.verifyImage imageName
    qemuImg ("resizing image " ++ imageName ++ " to " ++ toString newSizeGB ++ "GB")
      (.qemuResize (m.imagePath imageName) newSizeGB)

/-- an image that is not there is deleted -/
def deleteFound : Except Err Unit → Job Unit
  | .ok _ => cmd ("deleting image " ++ imageName) (.removeFile (m.imagePath imageName))
  | .error .notExist => .pure ()
  | .error e => fail (.wrap ("checking image " ++ quoted (m.imagePath imageName)) e.error)

def delete : Job Unit :=
  onCmd (.stat (m.imagePath imageName)) (m.deleteFound imageName)

variable (snapshotName : String)

def createSnapshot : Job Unit := do
  m.verifyImage imageName
  qemuImg ("creating snapshot " ++ imageName ++ "@" ++ snapshotName)
    (.qemuSnapshotCreate (m.imagePath imageName) snapshotName)

def deleteSnapshot : Job Unit := do
  m.verifyImage imageName
  qemuImg ("deleting snapshot " ++ imageName ++ "@" ++ snapshotName)
    (.qemuSnapshotDelete (m.imagePath imageName) snapshotName)

def listSnapshots : Job (List String) := do
  m.verifyImage imageName
  qemuImg ("listing snapshots of " ++ imageName) (.qemuSnapshots (m.imagePath imageName))

def getImageSize : Job Int := do
  m.verifyImage imageName
  qemuImg ("getting image info for " ++ imageName) (.qemuInfo (m.imagePath imageName))

def rollback : Job Unit := do
  m.verifyImage imageName
  qemuImg ("rolling back image " ++ imageName ++ " to snapshot " ++ snapshotName)
    (.qemuSnapshotApply (m.imagePath imageName) snapshotName)

end QCOWManager

/-! ## LVM -/

structure LVMManager where
  vgName : String
  thinPool : String

def trimSpace (s : String) : String :=
  String.ofList ((s.toList.dropWhile Char.isWhitespace).reverse.dropWhile Char.isWhitespace).reverse

def signed : List Char → Int × List Char
  | '-' :: digits => (-1, digits)
  | '+' :: digits => (1, digits)
  | digits => (1, digits)

/-- `strconv.ParseInt(s, 10, 64)` -/
def parseInt (s : String) : Except GoError Int :=
  let (sign, digits) := signed s.toList
  let n := sign * Nat.ofDigitChars 10 digits 0
  if digits = [] ∨ digits.all Char.isDigit = false then
    .error (.new ("strconv.ParseInt: parsing " ++ quoted s ++ ": invalid syntax"))
  else if n < -2 ^ 63 ∨ 2 ^ 63 ≤ n then
    .error (.new ("strconv.ParseInt: parsing " ++ quoted s ++ ": value out of range"))
  else .ok n

def isLVChar (c : Char) : Bool := c.isAlphanum || c = '_' || c = '.' || c = '-'

def validLVMLVName (id : String) : Bool :=
  match id.toList with
  | [] => false
  | c :: cs => c.isAlphanum && cs.all isLVChar

def lvmNamePattern : String := "^[a-zA-Z0-9][a-zA-Z0-9_.-]*$"

/-- `strings.Contains(id, "..")` -/
def hasParent (id : String) : Bool := decide (Path.parent <:+: id.toList)

namespace LVMManager

def validateLVIdentifier (id : String) : Except GoError Unit :=
  if id = "" then .error (.new "INVALID_ARGUMENT: LVM identifier cannot be empty")
  else if validLVMLVName id = false then
    .error (.new ("INVALID_ARGUMENT: invalid LVM identifier " ++ quoted id ++ ": must match " ++
      lvmNamePattern ++ " (alphanumeric, underscore, hyphen, dot)"))
  else if hasParent id then
    .error (.new ("INVALID_ARGUMENT: invalid LVM identifier " ++ quoted id ++
      ": must not contain path traversal characters"))
  else .ok ()

def validating (what id : String) : Job Unit :=
  wrapping ("validating " ++ what) (lift (validateLVIdentifier id))

variable (m : LVMManager)

def lvPath (lvName : String) : String := "/dev/" ++ m.vgName ++ "/" ++ lvName

def diskIdentifier (vmID : String) : String := m.lvPath (vmDiskName vmID)

/-- `runLVMCommand` -/
def lvm (context : String) (q : Cmd) : Job q.Ans := wrapping context (cmd "INTERNAL_ERROR" q)

def cloneFromTemplate (sourceImage targetImage : String) : Job Unit := do
  validating "source image" sourceImage
  validating "target image" targetImage
  lvm ("cloning template " ++ sourceImage ++ " to " ++ targetImage)
    (.lvcreate (m.lvPath sourceImage) (m.lvPath targetImage))

variable (imageName : String)

def resizeTo (newSizeGB : Int) : Job Unit :=
  if newSizeGB ≤ 0 then fail (QCOWManager.invalidSize newSizeGB)
  else lvm ("resizing LV " ++ imageName ++ " to " ++ toString newSizeGB ++ "GB")
    (.lvresize (m.lvPath imageName) newSizeGB)

def resize (newSizeGB : Int) : Job Unit := do
  validating "image name" imageName
  m.resizeTo imageName newSizeGB

def contains (sub : String) (e : GoError) : Bool := decide (sub.toList <:+: e.text.toList)

def isMissing (e : GoError) : Bool := contains "Failed to find logical volume" e

def isInUse (e : GoError) : Bool :=
  contains "device in use" e || contains "is in use" e ||
    contains "Logical volume" e && contains "contains a filesystem in use" e

/-- a volume that is not there is deleted -/
def unlessMissing (context : String) : Except GoError Unit → Job Unit
  | .ok _ => .pure ()
  | .error e => if isMissing e then .pure () else fail (.wrap context e)

def removeDependents (m : LVMManager) : List String → Job Unit
  | [] => .pure ()
  | dep :: rest => do
    lvm ("removing dependent snapshot " ++ dep) (.lvremove (m.lvPath dep))
    m.removeDependents rest

def deleted : Except GoError Unit → Job Unit
  | .ok _ => .pure ()
  | .error e =>
    if isInUse e then
      fail (.wrap ("IN_USE: cannot delete LV " ++ imageName ++
        ": device is in use (VM may be running)") e)
    else unlessMissing ("deleting LV " ++ imageName) (.error e)

def deleteWith : Except GoError (List String) → Job Unit
  | .ok dependents => do
    m.removeDependents dependents
    attempt (cmd "INTERNAL_ERROR" (.lvremove (m.lvPath imageName))) (deleted imageName)
  | .error e =>
    if isMissing e then .pure () else fail (.wrap ("checking dependents for " ++ imageName) e)

def delete : Job Unit := do
  validating "image name" imageName
  attempt (cmd "INTERNAL_ERROR" (.lvsDependents imageName)) (m.deleteWith imageName)

/-- a command that fails means that there is no such volume -/
def imageFound : Except Err Unit → Job Bool
  | .ok _ => .pure true
  | .error _ => .pure false

def imageExists : Job Bool := do
  validating "image name" imageName
  onCmd (.lvs (m.lvPath imageName)) imageFound

variable (snapName : String)

def createMissing (exists_ : Bool) : Job Unit :=
  if exists_ then .pure ()
  else lvm ("creating snapshot " ++ snapName ++ " from " ++ imageName)
    (.lvcreate (m.lvPath imageName) (m.lvPath snapName))

def createSnapshot : Job Unit := do
  validating "image name" imageName
  validating "snapshot name" snapName
  let exists_ ← wrapping ("checking if snapshot " ++ snapName ++ " exists") (m.imageExists snapName)
  m.createMissing imageName snapName exists_

def deleteSnapshot : Job Unit := do
  validating "image name" imageName
  validating "snapshot name" snapName
  attempt (cmd "INTERNAL_ERROR" (.lvremove (m.lvPath snapName)))
    (unlessMissing ("deleting snapshot " ++ snapName))

def listSnapshots (_ : LVMManager) (imageName : String) : Job (List String) := do
  validating "image name" imageName
  lvm ("listing snapshots of " ++ imageName) (.lvsDependents imageName)

def getImageSize : Job Int := do
  validating "image name" imageName
  let output ← lvm ("getting size of LV " ++ imageName) (.lvsSize (m.lvPath imageName))
  wrapping ("parsing size of LV " ++ imageName)
    (lift (parseInt (trimSuffix (trimSpace output) "B")))

variable (snapshotName : String)

/-- the volume was moved out of the way, and the snapshot takes its place if it can -/
def swapped : Except GoError Unit → Job Unit
  | .ok _ => logged (rawCmd (.lvremove (m.lvPath (imageName ++ "-old"))))
  | .error e => do
    logged (rawCmd (.lvrename (m.lvPath (imageName ++ "-old")) (m.lvPath imageName)))
    fail (.wrap ("renaming snapshot " ++ snapshotName ++ " to " ++ imageName) e)

def rollbackTo (exists_ : Bool) : Job Unit :=
  if exists_ then do
    lvm ("renaming LV " ++ imageName ++ " to " ++ imageName ++ "-old")
      (.lvrename (m.lvPath imageName) (m.lvPath (imageName ++ "-old")))
    attempt (cmd "INTERNAL_ERROR" (.lvrename (m.lvPath snapshotName) (m.lvPath imageName)))
      (m.swapped imageName snapshotName)
  else fail (.new ("NOT_FOUND: snapshot " ++ snapshotName))

def rollback : Job Unit := do
  validating "image name" imageName
  validating "snapshot name" snapshotName
  let exists_ ← wrapping ("checking if snapshot " ++ snapshotName ++ " exists")
    (m.imageExists snapshotName)
  m.rollbackTo imageName snapshotName exists_

end LVMManager

/-! ## the interface -/

inductive StorageBackend where
  | ceph (m : RBDManager)
  | qcow (m : QCOWManager)
  | lvm (m : LVMManager)

namespace StorageBackend

def diskIdentifier (vmID : String) : StorageBackend → String
  | .ceph _ => vmDiskName vmID
  | .qcow m => m.diskIdentifier vmID
  | .lvm m => m.diskIdentifier vmID

def cloneFromTemplate (sourcePool sourceImage sourceSnap targetImage : String) :
    StorageBackend → Job Unit
  | .ceph m => m.cloneFromTemplate sourcePool sourceImage sourceSnap targetImage
  | .qcow m => m.cloneFromTemplate sourcePool sourceImage targetImage
  | .lvm m => m.cloneFromTemplate sourceImage targetImage

def resize (imageName : String) (newSizeGB : Int) : StorageBackend → Job Unit
  | .ceph m => m.resize imageName newSizeGB
  | .qcow m => m.resize imageName newSizeGB
  | .lvm m => m.resize imageName newSizeGB

def delete (imageName : String) : StorageBackend → Job Unit
  | .ceph m => m.delete imageName
  | .qcow m => m.delete imageName
  | .lvm m => m.delete imageName

def createSnapshot (imageName snapshotName : String) : StorageBackend → Job Unit
  | .ceph m => m.createSnapshot imageName snapshotName
  | .qcow m => m.createSnapshot imageName snapshotName
  | .lvm m => m.createSnapshot imageName snapshotName

def deleteSnapshot (imageName snapshotName : String) : StorageBackend → Job Unit
  | .ceph m => m.deleteSnapshot imageName snapshotName
  | .qcow m => m.deleteSnapshot imageName snapshotName
  | .lvm m => m.deleteSnapshot imageName snapshotName

def listSnapshots (imageName : String) : StorageBackend → Job (List String)
  | .ceph m => m.listSnapshots imageName
  | .qcow m => m.listSnapshots imageName
  | .lvm m => m.listSnapshots imageName

def getImageSize (imageName : String) : StorageBackend → Job Int
  | .ceph m => m.getImageSize imageName
  | .qcow m => m.getImageSize imageName
  | .lvm m => m.getImageSize imageName

def rollback (imageName snapshotName : String) : StorageBackend → Job Unit
  | .ceph m => m.rollback imageName snapshotName
  | .qcow m => m.rollback imageName snapshotName
  | .lvm m => m.rollback imageName snapshotName

end StorageBackend

/-! ## the disk of a VM from a template -/

def validateLVMLVName (id : String) : Except GoError Unit :=
  if id = "" then .error (.new "LVM identifier cannot be empty")
  else if validLVMLVName id = false then
    .error (.new ("invalid LVM identifier " ++ quoted id ++ ": must match " ++ lvmNamePattern))
  else if hasParent id then
    .error (.new ("invalid LVM identifier " ++ quoted id ++ ": must not contain path traversal"))
  else .ok ()

/-- `QCOWTemplateManager` -/
structure QCOWTemplateManager where
  vmsPath : String

namespace QCOWTemplateManager

variable (m : QCOWTemplateManager)

variable (vmID : String)

def vmDiskPath : String := join m.vmsPath (vmDiskFile vmID)

def templateFound : Except Err Unit → Job Unit
  | .ok _ => .pure ()
  | .error e => fail (.wrap ("cloning template for VM " ++ vmID ++ ": template not found") e.error)

/-- only a disk that `os.Stat` finds is in the way -/
def diskFree : Except Err Unit → Job Unit
  | .ok _ => fail (.new ("cloning template for VM " ++ vmID ++ ": disk already exists at " ++
    m.vmDiskPath vmID))
  | .error _ => .pure ()

def resized : Except GoError Unit → Job Unit
  | .ok _ => .pure ()
  | .error e => do
    cleanup .vmDisk (rawCmd (.removeFile (m.vmDiskPath vmID)))
    fail (.wrap ("cloning template for VM " ++ vmID ++ ": resizing") e)

def cloneForVM (templatePath vmID : String) (sizeGB : Int) : Job String := do
  onCmd (.stat templatePath) (templateFound vmID)
  onCmd (.stat (m.vmDiskPath vmID)) (m.diskFree vmID)
  wrapping ("cloning template for VM " ++ vmID ++ ": creating overlay")
    (cmd ("creating overlay " ++ m.vmDiskPath vmID) (.qemuCreate templatePath (m.vmDiskPath vmID)))
  attempt (cmd ("resizing image " ++ m.vmDiskPath vmID ++ " to " ++ toString sizeGB ++ "G")
    (.qemuResize (m.vmDiskPath vmID) sizeGB)) (m.resized vmID)
  return m.vmDiskPath vmID

end QCOWTemplateManager

def lvmTemplateSuffix : String := "-base"

/-- `LVMTemplateManager` -/
structure LVMTemplateManager where
  vgName : String

namespace LVMTemplateManager

variable (m : LVMTemplateManager)

def lvPath (lvName : String) : String := "/dev/" ++ m.vgName ++ "/" ++ lvName

def templateLVName (templateRef : String) : String :=
  if lvmTemplateSuffix.toList.isSuffixOf templateRef.toList then templateRef else templateRef ++
    lvmTemplateSuffix

def vmDiskPath (vmID : String) : String := m.lvPath (vmDiskName vmID)

def resized (vmID : String) : Except GoError Unit → Job Unit
  | .ok _ => .pure ()
  | .error e => do
    cleanup .vmDisk (rawCmd (.lvremove (m.vmDiskPath vmID)))
    fail (.wrap ("resizing cloned disk for VM " ++ vmID) e)

/-- the text is cut at the point of a decimal number, and nothing else -/
def getLVSize (lvName : String) : Job Int := do
  let output ← cmd ("getting size of LV " ++ lvName) (.lvsSize (m.lvPath lvName))
  let sizeStr := String.ofList ((trimSpace output).toList.takeWhile fun c => c ≠ '.')
  wrapping ("parsing LV size " ++ quoted sizeStr) (lift (parseInt sizeStr))

/-- without the size of the template the disk keeps the one it has -/
def resizeFor (vmID : String) (sizeGB : Int) : Except GoError Int → Job Unit
  | .ok templateSize =>
    if templateSize / gbToBytes < sizeGB then
      attempt (cmd ("resizing LV " ++ vmDiskName vmID ++ " to " ++ toString sizeGB ++ "G")
        (.lvresize (m.vmDiskPath vmID) sizeGB)) (m.resized vmID)
    else .pure ()
  | .error _ => .pure ()

def cloneForVM (templateRef vmID : String) (sizeGB : Int) : Job String := do
  wrapping "validating template ref" (lift (validateLVMLVName templateRef))
  wrapping "validating vmID" (lift (validateLVMLVName vmID))
  wrapping ("cloning template " ++ templateLVName templateRef ++ " for VM " ++ vmID)
    (cmd ("creating thin snapshot " ++ vmDiskName vmID ++ " from " ++
      m.lvPath (templateLVName templateRef))
      (.lvcreate (m.lvPath (templateLVName templateRef)) (m.vmDiskPath vmID)))
  attempt (m.getLVSize (templateLVName templateRef)) (m.resizeFor vmID sizeGB)
  return m.vmDiskPath vmID

end LVMTemplateManager

def templatePool : String := "vs-images"
def templateImageSuffix : String := "-base"
def templateSnapshotSuffix : String := "-snap"

/-- `TemplateManager`, for RBD -/
structure TemplateManager where
  rbdManager : RBDManager

namespace TemplateManager

def resized (m : TemplateManager) (vmID : String) : Except GoError Unit → Job Unit
  | .ok _ => .pure ()
  | .error e => do
    -- the source drops the error of this clean-up without a line in the log
    cleanup .vmDisk (m.rbdManager.delete (vmDiskName vmID))
    fail (.wrap ("resizing cloned disk for VM " ++ vmID) e)

def cloneForVM (m : TemplateManager) (templateRef vmID : String) (sizeGB : Int) : Job String := do
  wrapping ("cloning template " ++ templateRef ++ " for VM " ++ vmID)
    (m.rbdManager.cloneFromTemplate templatePool (templateRef ++ templateImageSuffix)
      (templateRef ++ templateSnapshotSuffix) (vmDiskName vmID))
  attempt (m.rbdManager.resize (vmDiskName vmID) sizeGB) (m.resized vmID)
  return vmDiskName vmID

end TemplateManager

inductive TemplateBackend where
  | ceph (m : TemplateManager)
  | qcow (m : QCOWTemplateManager)
  | lvm (m : LVMTemplateManager)

def TemplateBackend.cloneForVM (templateRef vmID : String) (sizeGB : Int) :
    TemplateBackend → Job String
  | .ceph m => m.cloneForVM templateRef vmID sizeGB
  | .qcow m => m.cloneForVM templateRef vmID sizeGB
  | .lvm m => m.cloneForVM templateRef vmID sizeGB

end VirtueStack.Agent
