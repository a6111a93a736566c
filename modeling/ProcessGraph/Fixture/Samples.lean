import ProcessGraph.Fixture.Basic
import ProcessGraph.Json.Parser

/-!
# Sample systems

* `Fixture.minimal`: one container with one process.
* `Fixture.fleet`: a simulator and two turtles.
-/

namespace ProcessGraph.Fixture

open Json (Value)

/-- A document with a type name. -/
def typeDocument (name : String) : Value := .object [("type_name", .string name)]

/-- The document of a container. -/
def containerDocument (typeName : String) (processes : List String) : Value :=
  .object [("type_name", .string typeName), ("processes", .array (processes.map .string))]

/-- A number, read from its text. -/
def number (text : String) : Value := (Value.parse? text).getD .null

/-- One container `c1` of type `turtle_sim` with one process `p1` of type `get_profile`. -/
def minimal : Fixture := .ofPairs [
  (.system, .json (.object [("containers", .object [("c1", typeDocument "turtle_sim")])])),
  (.container "c1", .json (containerDocument "turtle_sim" ["p1"])),
  (.process "p1", .json (typeDocument "get_profile")),
  (.call "p1", .json (.object [("name", .string "turtle_sim"), ("turtles", number "2")]))]

/-- The identifier of a container. -/
def containerId (name : String) : String := "core://core/Container/" ++ name

/-- The identifier of a process. -/
def processId (name : String) : String := "core://core/ContainerProcess/" ++ name

/-- The containers of the fleet, with the type name and the processes of each. -/
def fleetContainers : List (String × String × List String) := [
  ("sim0::turtle_sim", "turtle_sim", ["sim0_profile::get_profile", "sim0_map::get_map"]),
  ("t0::turtle", "turtle",
    ["t0_pose::get_pose", "t0_vel::set_target_velocity", "t0_lidar::get_lidar"]),
  ("t1::turtle", "turtle", ["t1_pose::get_pose", "t1_vel::set_target_velocity"])]

/-- The processes of the fleet with their type names. -/
def fleetProcesses : List (String × String) := [
  ("sim0_profile::get_profile", "get_profile"), ("sim0_map::get_map", "get_map"),
  ("t0_pose::get_pose", "get_pose"), ("t0_vel::set_target_velocity", "set_target_velocity"),
  ("t0_lidar::get_lidar", "get_lidar"), ("t1_pose::get_pose", "get_pose"),
  ("t1_vel::set_target_velocity", "set_target_velocity")]

/-- A pose: a time stamp, and a place with a heading. -/
def pose (x y heading : String) : Value :=
  .array [number "1000", .array [number x, number y, number heading]]

/-- A simulator and two turtles. Poses, a scan and a map can be asked for. -/
def fleet : Fixture :=
  let ids := fleetContainers.map fun (name, _) => containerId name
  let mapping := Value.object (ids.map fun id => (id, .emptyObject))
  .ofPairs <|
  [(.system, .json (.object [("core_store", .object [("containers", mapping)])]))] ++
  (fleetContainers.map fun (name, typeName, processes) =>
    (.container (containerId name),
      .json (containerDocument typeName (processes.map processId)))) ++
  (fleetProcesses.map fun (name, typeName) =>
    (.process (processId name), .json (typeDocument typeName))) ++
  [(.call (processId "t0_pose::get_pose"), .json (pose "0.5" "-0.25" "1.57")),
    (.call (processId "t1_pose::get_pose"), .json (pose "-1.0" "2.0" "0.0")),
    (.call (processId "t0_vel::set_target_velocity"), .json .null),
    (.call (processId "t0_lidar::get_lidar"), .json (.object [
      ("ranges", .array [number "1.0", number "1.5", number "2.0"]),
      ("angle_min", number "-0.5"), ("angle_increment", number "0.5")])),
    (.call (processId "sim0_map::get_map"),
      .binary "image/png" [0x89, 0x50, 0x4E, 0x47, 0x0D, 0x0A, 0x1A, 0x0A]),
    (.list "container", .json (.array (ids.map .string)))]

end ProcessGraph.Fixture
