import DdsEnabler.RpcStructs

/-!
The messages of ROS 2 actions, as the enabler builds them.

Each is returned by the source as the text of a JSON document, and here as the document. The
members of an object stand in the order of their keys.
-/

namespace DdsEnabler.RpcUtils

def uuidJson (u : UUID) : Json := .arr (u.bytes.map fun b => .int b.toNat)

/-- The member `goal_id`. -/
def goalId (u : UUID) : Str × Json := ("goal_id".toList, .obj [("uuid".toList, uuidJson u)])

/-- The member `stamp`: whole seconds, and the nanoseconds cast to 32 bits. -/
def stamp (ns : Int) : Str × Json :=
  ("stamp".toList, .obj
    [("nanosec".toList, .int (ns.tmod 1000000000 % 2 ^ 32)),
     ("sec".toList, .int (ns.tdiv 1000000000))])

def createGoalRequestMsg (goalJson : JsonText) (u : UUID) : Except Exc Json := do
  let goal ← goalJson.parse
  return .obj [("goal".toList, goal), goalId u]

def createGoalReplyMsg (accepted : Bool) (now : Int) : Json :=
  .obj [("accepted".toList, .bool accepted), stamp now]

def createCancelRequestMsg (u : UUID) (timestamp : Int) : Json :=
  .obj [("goal_info".toList, .obj [goalId u, stamp timestamp])]

def createCancelReplyMsg (cancellingGoals : List (UUID × Int)) (cancelCode : CancelCode) : Json :=
  .obj
    [("goals_canceling".toList, .arr (cancellingGoals.map fun g => .obj [goalId g.1, stamp g.2])),
     ("return_code".toList, .int cancelCode.toInt)]

def createResultRequestMsg (u : UUID) : Json := .obj [goalId u]

def createResultReplyMsg (statusCode : StatusCode) (json : JsonText) : Except Exc Json := do
  let result ← json.parse
  return .obj [("result".toList, result), ("status".toList, .int statusCode.toInt)]

def createStatusMsg (u : UUID) (statusCode : StatusCode) (goalAcceptedStamp : Int) : Json :=
  .obj [("status_list".toList, .arr [.obj
    [("goal_info".toList, .obj [goalId u, stamp goalAcceptedStamp]),
     ("status".toList, .int statusCode.toInt)]])]

def createFeedbackMsg (json : JsonText) (u : UUID) : Except Exc Json := do
  let feedback ← json.parse
  return .obj [("feedback".toList, feedback), goalId u]

end DdsEnabler.RpcUtils
