import Noc.Api.NameBuffer

/-!
# Commands for the mesh daemon

`create_cmd` of `core/mesh/core/emt_cmd.c`, its tables and the enumerations of
`emt_cmd.h`.  An entry of a table is found by its index, whatever its label.
-/

namespace Noc
namespace Mesh

open Api

/-!
## Enumerations
-/

/-- `section_t`; what is not below `max` is refused like `max`. -/
inductive Section where
  | debug
  | md
  | evLoop
  | ieee1905
  | hyManager
  | wlanManager
  | mcManager
  | multiAp
  | servicePriority
  | topology
  | dispatchService
  | dbgService
  | stadb
  | mapCtrl
  | pcService
  | steerExec
  | bandMon
  | estimator
  | steerAlg
  | max
  deriving DecidableEq, Repr

inductive DebugAction where
  | level
  | here
  | max

inductive MdAction where
  | print
  | set
  | max

inductive EvLoopAction where
  | print
  | max

inductive Ieee1905Action where
  | print
  | set
  | max

inductive HyManagerAction where
  | prindHd
  | prindHa
  | flushHa
  | flushHd
  | max

inductive WlanManagerAction where
  | freq
  | print
  | max

inductive McManagerAction where
  | printEncap
  | printFloodTable
  | printInterface
  | max

inductive MultiApAction where
  | displayStatus
  | unassocmetquery
  | bkscan
  | scanreport
  | homechanrank
  | chanprefquery
  | chanprefdump
  | triggerchansel
  | bstamet
  | bhs
  | scanreq
  | neighreport
  | cacreq
  | cacterminate
  | max

inductive ServicePriorityAction where
  | displayService
  | bsp
  | esp
  | qsp
  | rmServicePriority
  | pushAllRuleToAgent
  | max

inductive TopologyAction where
  | s
  | s1
  | s2
  | paramAccessCmd
  | addEntryToTopo
  | ab
  | ai
  | f
  | t1
  | t2
  | d
  | g
  | me
  | dis
  | discovery
  | notify
  | radiocap
  | rmid
  | smid
  | max

inductive DispatchServiceAction where
  | print
  | max

inductive DbgServiceAction where
  | listAllEvents
  | createEvent
  | max

inductive StadbAction where
  | print
  | enaDis
  | rssi
  | act
  | nosteer
  | nosteerListReload
  | nosteerListShow
  | dialog
  | max

inductive MapCtrlAction where
  | printSummary
  | printNeighReport
  | max

inductive PcServiceAction where
  | print
  | paramAccess
  | triggerStat
  | setDebug
  | setMediumUltilization
  | setLinkCapacity
  | printModuleMetric
  | max

inductive SteerExecAction where
  | print
  | steer
  | allowAssoc
  | abort
  | dialog
  | max

inductive BandMonAction where
  | print
  | enaDisMonitor
  | util
  | max

inductive EstimatorAction where
  | print
  | rate
  | airtime
  | enaDis
  | detect
  | stats
  | dialog
  | max

inductive SteerAlgAction where
  | printAlg
  | printPathCapacity
  | max

/-!
## Tables
-/

structure SectionMapping where
  section_ : Section
  sectionCmd : String
  deriving DecidableEq, Repr

/-- The label is the number of an action in its own enumeration. -/
structure ActionMapping where
  action : Nat
  actionCmd : String
  deriving DecidableEq, Repr

def sectionMappingCmd : List SectionMapping :=
  [⟨.debug, "dbg"⟩,
   ⟨.md, "md"⟩,
   ⟨.evLoop, "evloop"⟩,
   ⟨.ieee1905, "ieee1905"⟩,
   ⟨.hyManager, "hy"⟩,
   ⟨.wlanManager, "wlan"⟩,
   ⟨.mcManager, "mc"⟩,
   ⟨.multiAp, "map"⟩,
   ⟨.servicePriority, "sp"⟩,
   ⟨.topology, "td"⟩,
   ⟨.dispatchService, "dispatchService"⟩,
   ⟨.dbgService, "dbgService"⟩,
   ⟨.stadb, "stadb"⟩,
   ⟨.mapCtrl, "mapctrl"⟩,
   ⟨.pcService, "pc"⟩,
   ⟨.steerExec, "steerexec"⟩,
   ⟨.bandMon, "bandmon"⟩,
   ⟨.estimator, "estimator"⟩,
   ⟨.steerAlg, "steeralg"⟩]

/-- Both entries have the label of the level. -/
def debugActionCmd : List ActionMapping :=
  [⟨DebugAction.level.ctorIdx, "level"⟩,
   ⟨DebugAction.level.ctorIdx, "here"⟩]

def mdActionCmd : List ActionMapping :=
  [⟨MdAction.print.ctorIdx, "p"⟩,
   ⟨MdAction.set.ctorIdx, "s"⟩]

def evloopActionCmd : List ActionMapping :=
  [⟨EvLoopAction.print.ctorIdx, "s"⟩]

def ieee1905ActionCmd : List ActionMapping :=
  [⟨Ieee1905Action.print.ctorIdx, "p"⟩,
   ⟨Ieee1905Action.set.ctorIdx, "s"⟩]

def hyManagerActionCmd : List ActionMapping :=
  [⟨HyManagerAction.prindHd.ctorIdx, "hd"⟩,
   ⟨HyManagerAction.prindHa.ctorIdx, "ha"⟩,
   ⟨HyManagerAction.flushHa.ctorIdx, "fa"⟩,
   ⟨HyManagerAction.flushHd.ctorIdx, "fd"⟩]

def wlanManagerActionCmd : List ActionMapping :=
  [⟨WlanManagerAction.freq.ctorIdx, "freq"⟩,
   ⟨WlanManagerAction.print.ctorIdx, "p"⟩]

def mcManagerActionCmd : List ActionMapping :=
  [⟨McManagerAction.printEncap.ctorIdx, "encap"⟩,
   ⟨McManagerAction.printFloodTable.ctorIdx, "flood"⟩,
   ⟨McManagerAction.printInterface.ctorIdx, "iffwd"⟩]

def multiApActionCmd : List ActionMapping :=
  [⟨MultiApAction.displayStatus.ctorIdx, "s"⟩,
   ⟨MultiApAction.unassocmetquery.ctorIdx, "unassocmetquery"⟩,
   ⟨MultiApAction.bkscan.ctorIdx, "bkscan"⟩,
   ⟨MultiApAction.scanreport.ctorIdx, "scanreport"⟩,
   ⟨MultiApAction.homechanrank.ctorIdx, "homechanrank"⟩,
   ⟨MultiApAction.chanprefquery.ctorIdx, "chanprefquery"⟩,
   ⟨MultiApAction.chanprefdump.ctorIdx, "chanprefdump"⟩,
   ⟨MultiApAction.triggerchansel.ctorIdx, "triggerchansel"⟩,
   ⟨MultiApAction.bstamet.ctorIdx, "bstamet"⟩,
   ⟨MultiApAction.bhs.ctorIdx, "bhs"⟩,
   ⟨MultiApAction.scanreq.ctorIdx, "scanReq"⟩,
   ⟨MultiApAction.neighreport.ctorIdx, "neighReport"⟩,
   ⟨MultiApAction.cacreq.ctorIdx, "cacreq"⟩,
   ⟨MultiApAction.cacterminate.ctorIdx, "cacterminate"⟩]

def servicePriorityActionCmd : List ActionMapping :=
  [⟨ServicePriorityAction.displayService.ctorIdx, "s"⟩,
   ⟨ServicePriorityAction.bsp.ctorIdx, "bsp"⟩,
   ⟨ServicePriorityAction.esp.ctorIdx, "esp"⟩,
   ⟨ServicePriorityAction.qsp.ctorIdx, "qsp"⟩,
   ⟨ServicePriorityAction.rmServicePriority.ctorIdx, "rmsprule"⟩,
   ⟨ServicePriorityAction.pushAllRuleToAgent.ctorIdx, "pusall"⟩]

def topologyActionCmd : List ActionMapping :=
  [⟨TopologyAction.s.ctorIdx, "s"⟩,
   ⟨TopologyAction.s1.ctorIdx, "s1"⟩,
   ⟨TopologyAction.s2.ctorIdx, "s2"⟩,
   ⟨TopologyAction.paramAccessCmd.ctorIdx, "p"⟩,
   ⟨TopologyAction.addEntryToTopo.ctorIdx, "a"⟩,
   ⟨TopologyAction.ab.ctorIdx, "ab"⟩,
   ⟨TopologyAction.ai.ctorIdx, "ai"⟩,
   ⟨TopologyAction.f.ctorIdx, "f"⟩,
   ⟨TopologyAction.t1.ctorIdx, "t1"⟩,
   ⟨TopologyAction.t2.ctorIdx, "t2"⟩,
   ⟨TopologyAction.d.ctorIdx, "d"⟩,
   ⟨TopologyAction.g.ctorIdx, "g"⟩,
   ⟨TopologyAction.me.ctorIdx, "me"⟩,
   ⟨TopologyAction.dis.ctorIdx, "dis"⟩,
   ⟨TopologyAction.discovery.ctorIdx, "dicovery"⟩,
   ⟨TopologyAction.notify.ctorIdx, "notify"⟩,
   ⟨TopologyAction.radiocap.ctorIdx, "radiocap"⟩,
   ⟨TopologyAction.rmid.ctorIdx, "rmid"⟩,
   ⟨TopologyAction.smid.ctorIdx, "smid"⟩]

def dispatchServiceActionCmd : List ActionMapping :=
  [⟨DispatchServiceAction.print.ctorIdx, "s"⟩]

def dbgServiceActionCmd : List ActionMapping :=
  [⟨DbgServiceAction.listAllEvents.ctorIdx, "s"⟩,
   ⟨DbgServiceAction.createEvent.ctorIdx, "c"⟩]

def stadbActionCmd : List ActionMapping :=
  [⟨StadbAction.print.ctorIdx, "s"⟩,
   ⟨StadbAction.enaDis.ctorIdx, "d"⟩,
   ⟨StadbAction.rssi.ctorIdx, "rssi"⟩,
   ⟨StadbAction.act.ctorIdx, "act"⟩,
   ⟨StadbAction.nosteer.ctorIdx, "nosteer"⟩,
   ⟨StadbAction.nosteerListReload.ctorIdx, "nosteerlistreload"⟩,
   ⟨StadbAction.nosteerListShow.ctorIdx, "nosteerlistshow"⟩,
   ⟨StadbAction.dialog.ctorIdx, "diaglog"⟩]

def mapctrlActionCmd : List ActionMapping :=
  [⟨MapCtrlAction.printSummary.ctorIdx, "s"⟩,
   ⟨MapCtrlAction.printNeighReport.ctorIdx, "d"⟩]

def pcServiceActionCmd : List ActionMapping :=
  [⟨PcServiceAction.print.ctorIdx, "s"⟩,
   ⟨PcServiceAction.paramAccess.ctorIdx, "p"⟩,
   ⟨PcServiceAction.triggerStat.ctorIdx, "t"⟩,
   ⟨PcServiceAction.setDebug.ctorIdx, "d"⟩,
   ⟨PcServiceAction.setMediumUltilization.ctorIdx, "m"⟩,
   ⟨PcServiceAction.setLinkCapacity.ctorIdx, "lc"⟩,
   ⟨PcServiceAction.printModuleMetric.ctorIdx, "pm"⟩]

def steerExecActionCmd : List ActionMapping :=
  [⟨SteerExecAction.print.ctorIdx, "s"⟩,
   ⟨SteerExecAction.steer.ctorIdx, "steer"⟩,
   ⟨SteerExecAction.allowAssoc.ctorIdx, "allow_assoc"⟩,
   ⟨SteerExecAction.abort.ctorIdx, "abort"⟩,
   ⟨SteerExecAction.dialog.ctorIdx, "diaglog"⟩]

def bandMonActionCmd : List ActionMapping :=
  [⟨BandMonAction.print.ctorIdx, "s"⟩,
   ⟨BandMonAction.enaDisMonitor.ctorIdx, "d"⟩,
   ⟨BandMonAction.util.ctorIdx, "util"⟩]

def estimatorActionCmd : List ActionMapping :=
  [⟨EstimatorAction.print.ctorIdx, "s"⟩,
   ⟨EstimatorAction.rate.ctorIdx, "rate"⟩,
   ⟨EstimatorAction.airtime.ctorIdx, "airtime"⟩,
   ⟨EstimatorAction.enaDis.ctorIdx, "d"⟩,
   ⟨EstimatorAction.detect.ctorIdx, "detect"⟩,
   ⟨EstimatorAction.stats.ctorIdx, "stats"⟩,
   ⟨EstimatorAction.dialog.ctorIdx, "diaglog"⟩]

def steeralgActionCmd : List ActionMapping :=
  [⟨SteerAlgAction.printAlg.ctorIdx, "s"⟩,
   ⟨SteerAlgAction.printPathCapacity.ctorIdx, "pc"⟩]

/-!
## The command
-/

/-- A read outside a table, or a write past the buffer. -/
inductive CmdFault where
  | outsideTable
  | outsideBuffer
  deriving DecidableEq, Repr

namespace Section

/-- The table that a section's case reads; `max` has no case. -/
def actions : Section -> List ActionMapping
  | debug => debugActionCmd
  | md => mdActionCmd
  | evLoop => evloopActionCmd
  | ieee1905 => ieee1905ActionCmd
  | hyManager => hyManagerActionCmd
  | wlanManager => wlanManagerActionCmd
  | mcManager => mcManagerActionCmd
  | multiAp => multiApActionCmd
  | servicePriority => servicePriorityActionCmd
  | topology => topologyActionCmd
  | dispatchService => dispatchServiceActionCmd
  | dbgService => dbgServiceActionCmd
  | stadb => stadbActionCmd
  | mapCtrl => mapctrlActionCmd
  | pcService => pcServiceActionCmd
  | steerExec => steerExecActionCmd
  | bandMon => bandMonActionCmd
  | estimator => estimatorActionCmd
  | steerAlg => steeralgActionCmd
  | max => []

/-- What the action is compared with there.  The service priorities have the
limit of the sections. -/
def limit : Section -> Nat
  | debug => DebugAction.max.ctorIdx
  | md => MdAction.max.ctorIdx
  | evLoop => EvLoopAction.max.ctorIdx
  | ieee1905 => Ieee1905Action.max.ctorIdx
  | hyManager => HyManagerAction.max.ctorIdx
  | wlanManager => WlanManagerAction.max.ctorIdx
  | mcManager => McManagerAction.max.ctorIdx
  | multiAp => MultiApAction.max.ctorIdx
  | servicePriority => Section.max.ctorIdx
  | topology => TopologyAction.max.ctorIdx
  | dispatchService => DispatchServiceAction.max.ctorIdx
  | dbgService => DbgServiceAction.max.ctorIdx
  | stadb => StadbAction.max.ctorIdx
  | mapCtrl => MapCtrlAction.max.ctorIdx
  | pcService => PcServiceAction.max.ctorIdx
  | steerExec => SteerExecAction.max.ctorIdx
  | bandMon => BandMonAction.max.ctorIdx
  | estimator => EstimatorAction.max.ctorIdx
  | steerAlg => SteerAlgAction.max.ctorIdx
  | max => 0

/-- The word of an action; there is none where it is refused.  Nothing tests
whether the action is negative. -/
def actionCmd (section_ : Section) (action : Int32) :
    Except CmdFault (Option String) :=
  if (section_.limit : Int) <= action.toInt then .ok none
  else if action.toInt < 0 then .error .outsideTable
  else
    match section_.actions[action.toInt.toNat]? with
    | none => .error .outsideTable
    | some mapping => .ok (some mapping.actionCmd)

end Section

def cmdLength : Nat := 200

/-- What is appended to the buffer, call by call. -/
def cmdPieces (sectionCmd actionCmd : String) (args : Option String) :
    List String :=
  [sectionCmd, " ", actionCmd] ++ (args.toList.flatMap fun args => [" ", args]) ++
    ["\n"]

def createCmd (section_ : Section) (action : Int32) (args : Option String) :
    Except CmdFault (Option String) :=
  if Section.max.ctorIdx <= section_.ctorIdx then .ok none
  else
    match sectionMappingCmd[section_.ctorIdx]? with
    | none => .error .outsideTable
    | some mapping =>
        match section_.actionCmd action with
        | .error fault => .error fault
        | .ok none => .ok none
        | .ok (some actionCmd) =>
            match (cmdPieces mapping.sectionCmd actionCmd args).foldlM
                (strcat cmdLength) "" with
            | none => .error .outsideBuffer
            | some cmd => .ok (some cmd)

end Mesh
end Noc
