import VirtueStack.Shared.Errors
import VirtueStack.Shared.Format
import VirtueStack.Shared.Path
import VirtueStack.Txn.Each
import Mathlib.Data.UInt

/-!
# The host of a node agent: its domains, its disks, and the commands of the agent

What libvirt, qemu-img, librbd, the LVM tools and the file system of one host do, as far as the
agent uses them.

* `Obj` where data is stored: a file, an RBD image or a logical volume;
* `Image` the data, and the snapshots that are kept inside a QCOW2 file or an RBD image;
* `Domain` a domain of libvirt, and whether a QEMU process of it is alive. One that is shut off has
  none;
* `Cmd` the commands and the calls of libraries, one step each;
* `store` the host as a store: a command fails of itself (`Event.fail`), or because of what it
  finds.

A command that fails has changed nothing, with two exceptions: genisoimage and dd may leave what
they have written so far. A running guest changes its disk and its state only where a command waits
for it.
-/

namespace VirtueStack.Agent
open Txn

/-! ## storage -/

abbrev Content : Type := List UInt8

inductive Obj where
  | file (path : Path)
  /-- an RBD image -/
  | image (pool name : String)
  /-- a logical volume, by the path of its device -/
  | device (path : String)
  deriving DecidableEq

structure Snap where
  name : String
  content : Content
  isProtected : Bool
  deriving DecidableEq

structure Image where
  content : Content
  /-- the virtual size, in bytes -/
  size : Int
  snaps : List Snap
  /-- the volume that a thin snapshot was made of -/
  origin : Option String
  deriving DecidableEq

def gbToBytes : Int := 1024 * 1024 * 1024

def fileAt (path : String) : Obj := .file (clean path)

def Image.ofBytes (content : Content) : Image := ⟨content, content.length, [], none⟩

def Image.snap (im : Image) (name : String) : Option Snap := im.snaps.find? fun s => s.name = name

def Image.copy (im : Image) (content : Content) (origin : Option String) : Image :=
  ⟨content, im.size, [], origin⟩

/-! ## domains -/

/-- `libvirt.DomainState` -/
inductive DomainState where
  | nostate
  | running
  | blocked
  | paused
  | shutdown
  | shutoff
  | crashed
  | pmsuspended
  deriving DecidableEq, Repr

/-- what the agent puts into the XML of a domain -/
structure DomainXML where
  name : String
  disk : Obj
  vcpu : Int
  memoryMB : Int
  macAddress : String
  ipv4Address : String
  ipv6Address : String
  portSpeedKbps : Int
  cloudInitISOPath : String
  deriving DecidableEq

structure Domain where
  state : DomainState
  /-- a QEMU process of the domain is alive -/
  qemu : Bool
  /-- a transient domain is gone when its process is -/
  isPersistent : Bool
  xml : DomainXML
  shutoff_dead : state = .shutoff → qemu = false
  deriving DecidableEq

lemma dead_when_shutoff : DomainState.shutoff = .shutoff → false = false := fun _ => rfl
lemma running_not_shutoff {b : Bool} : DomainState.running = .shutoff → b = false :=
  fun h => by cases h

def Domain.new (xml : DomainXML) : Domain := ⟨.shutoff, false, true, xml, dead_when_shutoff⟩

/-- `DomainDefineXML` over what is there -/
def Domain.redefine (xml : DomainXML) : Option Domain → Domain
  | none => .new xml
  | some d => ⟨d.state, d.qemu, true, xml, d.shutoff_dead⟩

def Domain.started (d : Domain) : Domain :=
  ⟨.running, true, d.isPersistent, d.xml, running_not_shutoff⟩

/-- what is left of a domain whose process has ended -/
def Domain.stopped (d : Domain) : Option Domain :=
  if d.isPersistent then some (.new d.xml) else none

/-- `UndefineFlags`: a domain that is active stays until it ends -/
def Domain.undefined (d : Domain) : Option Domain :=
  if d.qemu then some ⟨d.state, d.qemu, false, d.xml, d.shutoff_dead⟩ else none

def Domain.withXML (d : Domain) (f : DomainXML → DomainXML) : Domain :=
  ⟨d.state, d.qemu, d.isPersistent, f d.xml, d.shutoff_dead⟩

/-! ## the host -/

/-- a clean-up of the agent that did not work -/
inductive Warning where
  | incompleteISO
  | cloudInit
  | vmDisk
  | domain
  | disk
  deriving DecidableEq, Repr

structure Host where
  domains : String → Option Domain
  objects : Obj → Option Image
  /-- the lines of the log about clean-ups that failed -/
  warnings : List Warning

inductive Write where
  | domain (name : String) (domain : Option Domain)
  | object (obj : Obj) (image : Option Image)
  | warning (w : Warning)

def Host.apply (h : Host) : Write → Host
  | .domain name d => { h with domains := Function.update h.domains name d }
  | .object obj im => { h with objects := Function.update h.objects obj im }
  | .warning w => { h with warnings := h.warnings ++ [w] }

/-! ## commands -/

inductive Cmd where
  -- libvirt
  | lookupDomain (name : String)
  | getState (name : String)
  | getInfo (name : String)
  | defineXML (xml : DomainXML)
  | getName (name : String)
  | createDomain (name : String)
  | shutdownDomain (name : String)
  | destroyDomain (name : String)
  | undefineDomain (name : String)
  | setVcpus (name : String) (vcpu : Int)
  | setMemory (name : String) (memoryMB : Int)
  /-- time goes by, and the guest may power off -/
  | tick (name : String)
  -- files
  | mkdirAll (path : String)
  | mkdirTemp
  | writeFile (name : String)
  | genisoimage (path : String)
  | stat (path : String)
  | fileSize (path : String)
  | removeFile (path : String)
  -- qemu-img
  | qemuCreate (backing path : String)
  | qemuResize (path : String) (sizeGB : Int)
  | qemuInfo (path : String)
  | qemuSnapshots (path : String)
  | qemuSnapshotCreate (path name : String)
  | qemuSnapshotDelete (path name : String)
  | qemuSnapshotApply (path name : String)
  -- librbd
  | openIOContext (pool : String)
  | openImage (pool name : String)
  | getSnapshotNames (pool name : String)
  | isProtected (pool name snap : String)
  | unprotect (pool name snap : String)
  | removeSnapshot (pool name snap : String)
  | removeImage (pool name : String)
  | createSnapshot (pool name snap : String)
  | rollback (pool name snap : String)
  | resizeImage (pool name : String) (sizeGB : Int)
  | getSize (pool name : String)
  | cloneImage (sourcePool source snap pool name : String)
  -- LVM
  | lvs (path : String)
  | lvsDependents (origin : String)
  | lvsSize (path : String)
  | lvremove (path : String)
  | lvcreate (origin path : String)
  | lvresize (path : String) (sizeGB : Int)
  | lvrename (path target : String)
  | thinPoolStats
  | dd (source target : Obj)
  -- the process of the agent
  | newUUID
  | warn (w : Warning)

@[reducible] def Cmd.Ans : Cmd → Type
  | .getState _ => DomainState
  | .getName _ => String
  | .genisoimage _ => Except String Unit
  | .fileSize _ => Int
  | .qemuInfo _ => Int
  | .qemuSnapshots _ => List String
  | .getSnapshotNames _ _ => List String
  | .isProtected _ _ _ => Bool
  | .getSize _ _ => Int
  | .lvsDependents _ => List String
  | .lvsSize _ => String
  | .thinPoolStats => Nat × Nat
  | .dd _ _ => Except String Unit
  | .newUUID => String
  | _ => Unit

structure Inp where
  /-- what a new file holds, or what a command that broke off or made an image smaller has left -/
  bytes : Content
  /-- the command breaks off after it has begun to write -/
  broken : Bool
  /-- the guest has powered off -/
  off : Bool
  text : String
  names : List String
  /-- the data and the metadata of the thin pool in use, in tenths of a percent -/
  percent : Nat × Nat

inductive Err where
  /-- `libvirt.ERR_NO_DOMAIN` -/
  | noDomain
  /-- `os.IsNotExist` -/
  | notExist
  | failed (text : String)
  deriving DecidableEq

def Err.text : Err → String
  | .noDomain => "Domain not found"
  | .notExist => "no such file or directory"
  | .failed text => text

def Err.error (e : Err) : GoError := .new e.text

/-- how a command that needs an object fails without it -/
def missing : Obj → Err
  | .file _ => .notExist
  | .image _ _ => .failed "rbd: ret=-2, No such file or directory"
  | .device path => .failed ("Failed to find logical volume " ++ quoted path)

/-! ## what a command does -/

namespace Host

abbrev Effect (α : Type) : Type := Except Err (α × List Write)

section
variable {α : Type}

def done (a : α) : Effect α := .ok (a, [])

def fails (text : String) : Effect α := .error (.failed text)

def withDomain (h : Host) (name : String) (f : Domain → Effect α) : Effect α :=
  match h.domains name with
  | none => .error .noDomain
  | some d => f d

def withObject (h : Host) (obj : Obj) (f : Image → Effect α) : Effect α :=
  match h.objects obj with
  | none => .error (missing obj)
  | some im => f im

def withSnap (h : Host) (obj : Obj) (name : String) (f : Image → Snap → Effect α) : Effect α :=
  h.withObject obj fun im =>
    match im.snap name with
    | none => fails "No such file or directory"
    | some s => f im s

end

def putDomain (name : String) (d : Option Domain) : Effect Unit := .ok ((), [.domain name d])

def put (obj : Obj) (im : Image) : Effect Unit := .ok ((), [.object obj (some im)])

def remove (obj : Obj) : Effect Unit := .ok ((), [.object obj none])

/-- a new object with the data of another one -/
def clone (h : Host) (target : Obj) (im : Image) : Effect Unit :=
  if (h.objects target).isSome then fails "File exists" else put target im

/-- a smaller image keeps what the outside leaves of its data -/
def resize (obj : Obj) (sizeGB : Int) (x : Inp) (im : Image) : Effect Unit :=
  put obj { im with
    size := sizeGB * gbToBytes
    content := if sizeGB * gbToBytes < im.size then x.bytes else im.content }

/-- an object that data is written to: a volume keeps its size -/
def written (obj : Obj) (old : Option Image) (content : Content) : Image :=
  match obj, old with
  | .device _, some im => { im with content := content }
  | _, _ => .ofBytes content

/-- data that is written to an object, as far as the command gets -/
def copyTo (h : Host) (obj : Obj) (content : Content) (x : Inp) : Effect (Except String Unit) :=
  if x.broken then .ok (.error x.text, [.object obj (some (written obj (h.objects obj) x.bytes))])
  else .ok (.ok (), [.object obj (some (written obj (h.objects obj) content))])

end Host

/-- `lvs --noheadings --units b -o lv_size` prints the number of bytes and the unit -/
def lvsOutput (size : Int) : String := "  " ++ padded 1 size.toNat ++ "B "

def exec : (q : Cmd) → Inp → Inp → Host → Host.Effect q.Ans
  | .lookupDomain name, _, _, h => h.withDomain name fun _ => Host.done ()
  | .getState name, _, _, h => h.withDomain name fun d => Host.done d.state
  | .getInfo name, _, _, h => h.withDomain name fun _ => Host.done ()
  | .defineXML xml, _, _, h => Host.putDomain xml.name
    (some (Domain.redefine xml (h.domains xml.name)))
  | .getName name, _, _, _ => Host.done name
  | .createDomain name, _, _, h => h.withDomain name fun d =>
    if d.qemu then Host.fails "domain is already running"
    else if (h.objects d.xml.disk).isNone then Host.fails "Cannot access storage file"
    else Host.putDomain name (some d.started)
  | .shutdownDomain name, _, _, h => h.withDomain name fun d =>
    if d.qemu then Host.done () else Host.fails "domain is not running"
  | .destroyDomain name, _, _, h => h.withDomain name fun d =>
    if d.qemu then Host.putDomain name d.stopped else Host.fails "domain is not running"
  | .undefineDomain name, _, _, h => h.withDomain name fun d =>
    if d.isPersistent then Host.putDomain name d.undefined else Host.fails
      "cannot undefine transient domain"
  | .setVcpus name vcpu, _, _, h => h.withDomain name fun d =>
    Host.putDomain name (some (d.withXML fun xml => { xml with vcpu := vcpu }))
  | .setMemory name memoryMB, _, _, h => h.withDomain name fun d =>
    Host.putDomain name (some (d.withXML fun xml => { xml with memoryMB := memoryMB }))
  | .tick name, _, x, h => h.withDomain name fun d =>
    if x.off && d.qemu then Host.putDomain name d.stopped else Host.done ()
  | .mkdirAll _, _, _, _ => Host.done ()
  | .mkdirTemp, _, _, _ => Host.done ()
  | .writeFile _, _, _, _ => Host.done ()
  | .genisoimage path, _, x, h => h.copyTo (fileAt path) x.bytes x
  | .stat path, _, _, h => h.withObject (fileAt path) fun _ => Host.done ()
  | .fileSize path, _, _, h => h.withObject (fileAt path) fun im => Host.done im.content.length
  | .removeFile path, _, _, h => h.withObject (fileAt path) fun _ => Host.remove (fileAt path)
  | .qemuCreate backing path, _, _, h => h.withObject (fileAt backing) fun im =>
    -- an existing file is overwritten
    Host.put (fileAt path) (im.copy im.content none)
  | .qemuResize path sizeGB, _, x, h => h.withObject (fileAt path) fun im =>
    if sizeGB * gbToBytes < im.size then
      Host.fails "Use the --shrink option to perform a shrink operation."
    else Host.resize (fileAt path) sizeGB x im
  | .qemuInfo path, _, _, h => h.withObject (fileAt path) fun im => Host.done im.size
  | .qemuSnapshots path, _, _, h => h.withObject (fileAt path) fun im =>
      Host.done (im.snaps.map Snap.name)
  | .qemuSnapshotCreate path name, _, _, h => h.withObject (fileAt path) fun im =>
    -- two snapshots may have one name
    Host.put (fileAt path) { im with snaps := im.snaps ++ [⟨name, im.content, false⟩] }
  | .qemuSnapshotDelete path name, _, _, h => h.withSnap (fileAt path) name fun im s =>
    Host.put (fileAt path) { im with snaps := im.snaps.erase s }
  | .qemuSnapshotApply path name, _, _, h => h.withSnap (fileAt path) name fun im s =>
    Host.put (fileAt path) { im with content := s.content }
  | .openIOContext _, _, _, _ => Host.done ()
  | .openImage pool name, _, _, h => h.withObject (.image pool name) fun _ => Host.done ()
  | .getSnapshotNames pool name, _, _, h => h.withObject (.image pool name) fun im =>
    Host.done (im.snaps.map Snap.name)
  | .isProtected pool name snap, _, _, h => h.withSnap (.image pool name) snap fun _ s =>
      Host.done s.isProtected
  | .unprotect pool name snap, _, _, h => h.withSnap (.image pool name) snap fun im s =>
    Host.put (.image pool name) { im with
      snaps := im.snaps.map fun t => if t = s then { t with isProtected := false } else t }
  | .removeSnapshot pool name snap, _, _, h => h.withSnap (.image pool name) snap fun im s =>
    if s.isProtected then Host.fails "Device or resource busy"
    else Host.put (.image pool name) { im with snaps := im.snaps.erase s }
  | .removeImage pool name, _, _, h => h.withObject (.image pool name) fun im =>
    if im.snaps = [] then Host.remove (.image pool name) else Host.fails "Directory not empty"
  | .createSnapshot pool name snap, _, _, h => h.withObject (.image pool name) fun im =>
    if (im.snap snap).isSome then Host.fails "File exists"
    else Host.put (.image pool name) { im with snaps := im.snaps ++ [⟨snap, im.content, false⟩] }
  | .rollback pool name snap, _, _, h => h.withSnap (.image pool name) snap fun im s =>
    Host.put (.image pool name) { im with content := s.content }
  | .resizeImage pool name sizeGB, _, x, h => h.withObject (.image pool name) fun im =>
    Host.resize (.image pool name) sizeGB x im
  | .getSize pool name, _, _, h => h.withObject (.image pool name) fun im => Host.done im.size
  | .cloneImage sourcePool source snap pool name, _, _, h =>
      h.withSnap (.image sourcePool source) snap fun im s =>
    h.clone (.image pool name) (im.copy s.content none)
  | .lvs path, _, _, h => h.withObject (.device path) fun _ => Host.done ()
  | .lvsDependents _, _, x, _ => Host.done x.names
  | .lvsSize path, _, _, h => h.withObject (.device path) fun im => Host.done (lvsOutput im.size)
  | .lvremove path, _, _, h => h.withObject (.device path) fun _ => Host.remove (.device path)
  | .lvcreate origin path, _, _, h => h.withObject (.device origin) fun im =>
    h.clone (.device path) (im.copy im.content (some origin))
  | .lvresize path sizeGB, _, x, h => h.withObject (.device path) fun im =>
    Host.resize (.device path) sizeGB x im
  | .lvrename path target, _, _, h => h.withObject (.device path) fun im =>
    if (h.objects (.device target)).isSome then Host.fails "already exists in volume group"
    else .ok ((), [.object (.device path) none, .object (.device target) (some im)])
  | .thinPoolStats, _, x, _ => Host.done x.percent
  | .dd source target, _, x, h => h.withObject source fun im => h.copyTo target im.content x
  | .newUUID, _, x, _ => Host.done x.text
  | .warn w, _, _, _ => .ok ((), [.warning w])

@[reducible] def store : Store where
  Db := Host
  Lock := Empty
  Write := Write
  Stmt := Cmd
  Ans := Cmd.Ans
  Inp := Inp
  Err := Err
  Fault := String
  fault := .failed
  decLock := inferInstance
  exec := exec
  locks := fun _ _ _ => []
  apply := Host.apply
  guards := fun _ => []
  exec_guarded := fun _ _ _ _ _ _ _ _ _ _ hl => hl

/-- what the agent does on its host -/
abbrev Job (α : Type) : Type := Call store GoError α

end VirtueStack.Agent
