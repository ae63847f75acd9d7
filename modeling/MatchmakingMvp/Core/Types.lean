import MatchmakingMvp.Foundation.OrderedMap
import Mathlib.Data.Int.Order.Basic
import Mathlib.Data.Prod.Lex

/-! # Tickets, requests, sessions and zone instances

Statuses with their transition table, and the objects the managers share through
pointers. A pointer is modelled by the object's constant members together with
a serial number for its identity; the members that change live in
`MatchmakingMvp.World`. Members that no modelled function reads are left out.
-/

namespace MatchmakingMvp

open Foundation

abbrev PlayerKey := Int
abbrev MatchTicketId := Int
abbrev MatchId := Int

/-- A worker group is named by its world group and zone id. -/
abbrev MatchmakingGroupKey := Int × String

inductive MatchTicketStatus
  | none | queued | searching | requiresAcceptance | placing
  | completed | failed | cancelled | timedOut
deriving DecidableEq, Repr

/-- The statuses each status may change to. -/
def stateChangeMap : MatchTicketStatus → List MatchTicketStatus
  | .none => [.queued, .cancelled, .failed]
  | .queued => [.searching, .cancelled, .failed]
  | .searching => [.requiresAcceptance, .placing, .failed]
  | .requiresAcceptance => [.placing, .timedOut, .failed]
  | .placing => [.completed, .timedOut, .failed]
  | .completed => []
  | .failed => []
  | .cancelled => []
  | .timedOut => []

def canChangeStatus (curr next : MatchTicketStatus) : Bool := (stateChangeMap curr).contains next

/-- A queueing request. The players are the set of their keys. -/
structure MatchTicketRequest where
  worldNo : Int
  matchZoneId : String
  matchTicketId : MatchTicketId := -1
  partyKey : Int := -1
  requestPlayerKey : PlayerKey := -1
  players : OrderedSet PlayerKey
deriving DecidableEq

/-- A ticket object. -/
structure MatchTicket where
  serial : Nat
  matchTicketRequest : MatchTicketRequest
  matchWorldGroupId : Int
deriving DecidableEq

namespace MatchTicket

def matchTicketId (ticket : MatchTicket) : MatchTicketId := ticket.matchTicketRequest.matchTicketId

def players (ticket : MatchTicket) : List PlayerKey := ticket.matchTicketRequest.players.elements

def matchingGroupKey (ticket : MatchTicket) : MatchmakingGroupKey :=
  (ticket.matchWorldGroupId, ticket.matchTicketRequest.matchZoneId)

theorem players_nodup (ticket : MatchTicket) : ticket.players.Nodup :=
  ticket.matchTicketRequest.players.nodup

end MatchTicket

/-- A matchmaking request object: a ticket on its way through a worker group. -/
structure MatchmakingRequest where
  serial : Nat
  workerGroupKey : MatchmakingGroupKey
  matchTicketPtr : Option MatchTicket
deriving DecidableEq

namespace MatchmakingRequest

def matchTicketId (request : MatchmakingRequest) : MatchTicketId :=
  match request.matchTicketPtr with
  | some ticket => ticket.matchTicketId
  | none => -1

def playerCount (request : MatchmakingRequest) : Int :=
  match request.matchTicketPtr with
  | some ticket => ticket.players.length
  | none => 0

end MatchmakingRequest

/-- The request object made for a ticket. -/
def MatchTicket.matchmakingRequest (ticket : MatchTicket) : MatchmakingRequest :=
  ⟨ticket.serial, ticket.matchingGroupKey, some ticket⟩

@[simp] theorem MatchTicket.matchmakingRequest_matchTicketId (ticket : MatchTicket) :
    ticket.matchmakingRequest.matchTicketId = ticket.matchTicketId := rfl

@[simp] theorem MatchTicket.matchmakingRequest_playerCount (ticket : MatchTicket) :
    ticket.matchmakingRequest.playerCount = ticket.players.length := rfl

@[simp] theorem MatchTicket.matchmakingRequest_matchTicketPtr (ticket : MatchTicket) :
    ticket.matchmakingRequest.matchTicketPtr = some ticket := rfl

/-- The members of a request that change: the worker it was assigned to and how
far its search has been expanded around that worker. -/
structure WorkerSlot where
  baseWorkerIndex : Int := 0
  workerExpansionLevel : Int := 0
deriving DecidableEq

def clamp (value low high : Int) : Int :=
  if value < low then low else if high < value then high else value

namespace WorkerSlot

def minWorkerIndex (slot : WorkerSlot) (maxSlotIndex : Int) : Int :=
  clamp (slot.baseWorkerIndex - slot.workerExpansionLevel) 0 maxSlotIndex

def maxWorkerIndex (slot : WorkerSlot) (maxSlotIndex : Int) : Int :=
  clamp (slot.baseWorkerIndex + slot.workerExpansionLevel) 0 maxSlotIndex

end WorkerSlot

/-- A player's response to a session. -/
structure PlayerMatchAcceptInfo where
  playerKey : PlayerKey := -1
  isAccept : Bool := false
  additionalInfo : Bool := false
  hasResponded : Bool := false
deriving DecidableEq

/-- A session object. The ticket list is a set of ticket pointers, in the order
the set iterates in. -/
structure MatchSession where
  serial : Nat
  matchId : MatchId
  matchTicketList : List (Option MatchTicket)
  distinct : matchTicketList.Nodup
  matchWorldNo : Int
  matchZoneId : String
deriving DecidableEq

namespace MatchSession

/-- The tickets behind the pointers that are not null. -/
def tickets (session : MatchSession) : List MatchTicket := session.matchTicketList.reduceOption

/-- The players of all tickets, ticket by ticket. -/
def ticketPlayers (session : MatchSession) : List PlayerKey :=
  session.tickets.flatMap MatchTicket.players

/-- The players a new session expects a response from. -/
def initialAcceptInfos (session : MatchSession) : OrderedMap PlayerKey PlayerMatchAcceptInfo :=
  session.ticketPlayers.foldl
    (fun infos player => infos.emplace player { playerKey := player }) OrderedMap.empty

end MatchSession

/-- A zone is named by its world number and its zone guid, ordered lexicographically. -/
abbrev IntegrationZoneInstanceKey := Int ×ₗ Int

/-- The state of a placed match that is handed to the zone manager. -/
structure IntegrationZoneInstanceInfo where
  zoneGuid : Int := -1
  worldNo : Int := -1
  worldSessionKey : Int := -1
  matchId : MatchId := -1
  zoneId : String := ""
  players : OrderedSet PlayerKey := default
  paidPlayers : OrderedSet PlayerKey := default
deriving DecidableEq

/-- A zone instance object. -/
structure IntegrationZoneInstance where
  serial : Nat
  worldNo : Int
  worldSessionKey : Int
  zoneGuid : Int
  zoneId : String
deriving DecidableEq

def IntegrationZoneInstance.integrationZoneInstanceKey (zone : IntegrationZoneInstance) :
    IntegrationZoneInstanceKey := toLex (zone.worldNo, zone.zoneGuid)

end MatchmakingMvp
