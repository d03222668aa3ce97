import ScriptComposer.Catalog

/-!
# ScriptComposer.Catalog.Builtin

The catalog that is there from the start: the game API's functions in seven
categories.  The functions carry no category of their own here;
`Catalog.ofCategories` fills it in.
-/

namespace ScriptComposer

namespace Catalog.Builtin

/-- A parameter without a default value. -/
def param (name type description : String) : ApiParameter := ⟨name, ⟨type⟩, description, none⟩

/-- A parameter that a new call starts with set to `value`. -/
def paramSet (name type description value : String) : ApiParameter :=
  ⟨name, ⟨type⟩, description, some value⟩

/-- A function of the API, in its category's list. -/
def function (name description : String) (parameters : List ApiParameter)
    (returnType returnDescription : String) : ApiFunction :=
  ⟨name, description, parameters, returnType, returnDescription, none⟩

/-- Where the player is and how the player fares. -/
def player : List ApiFunction := [
  function "GetLocalPlayerName" "Get the name of the local player" [] "string"
    "The name of the local player",
  function "PlayerCoord" "Get the coordinates of the player" [] "WPOINT"
    "The coordinates of the player",
  function "PlayerCoordfloat" "Get the coordinates of the player as float values" [] "FFPOINT"
    "The coordinates of the player as float values",
  function "GetHP_" "Get the current health points of the player" [] "number"
    "The current health points",
  function "GetHPMax_" "Get the maximum health points of the player" [] "number"
    "The maximum health points",
  function "GetPray_" "Get the current prayer points of the player" [] "number"
    "The current prayer points",
  function "GetPrayMax_" "Get the maximum prayer points of the player" [] "number"
    "The maximum prayer points",
  function "GetAddreline_" "Get the current adrenaline level of the player" [] "number"
    "The current adrenaline level",
  function "GetHPrecent" "Get the current health percentage of the player" [] "number"
    "The current health percentage (0-100)",
  function "Get_tick" "Get the current game tick" [] "number" "The current game tick",
  function "ReadPlayerAnim" "Get the current animation ID of the player" [] "number"
    "The current animation ID",
  function "Dist_FLP" "Calculate distance from local player to a point" [
      param "point" "FFPOINT" "The target point"]
    "number" "The distance in game units"]

/-- What the player carries. -/
def inventory : List ApiFunction := [
  function "InvItemcount_" "Get the count of a specific item in the inventory" [
      param "item" "number" "The ID of the item to count"]
    "number" "The count of the specified item",
  function "InvStackSize" "Get the stack size of a specific item in the inventory" [
      param "item" "number" "The ID of the item"]
    "number" "The stack size of the specified item",
  function "InvFull_" "Check if the inventory is full" [] "boolean"
    "True if the inventory is full, false otherwise",
  function "Invfreecount_" "Get the number of free slots in the inventory" [] "number"
    "The number of free slots",
  function "ClickInv_" "Click on an item in the inventory" [
      param "item" "number" "The ID of the item to click",
      paramSet "randomelement" "number" "Random element (0 default)" "0",
      paramSet "action" "number" "Action (0 left click)" "0",
      paramSet "xrand" "number" "Random X offset" "0",
      paramSet "yrand" "number" "Random Y offset" "0"]
    "boolean" "True if successful, false otherwise",
  function "Container_Get_all" "Get all items in a container" [
      paramSet "containerId" "number" "The ID of the container (93 for inventory)" "93"]
    "table" "Table of items in the container",
  function "Container_Findfrom" "Find an item in a container" [
      paramSet "container" "table" "The container to search in" "\x7b\x7d",
      param "itemId" "number" "The ID of the item to find"]
    "table" "The found item or nil"]

/-- Doing something with the things around the player. -/
def actions : List ApiFunction := [
  function "DoAction_NPC" "Perform an action on an NPC" [
      param "action" "number" "The action to perform",
      param "offset" "number" "The offset for the action",
      paramSet "objects" "table|number" "The NPC IDs to target" "\x7b\x7d",
      paramSet "maxdistance" "number" "Maximum distance to search" "60",
      paramSet "ignore_star" "boolean" "Whether to ignore starred NPCs" "false",
      paramSet "health" "number" "Minimum health of the NPC" "0"]
    "boolean" "True if successful, false otherwise",
  function "DoAction_Object" "Perform an action on an object" [
      param "action" "number" "The action to perform",
      param "offset" "number" "The offset for the action",
      paramSet "obj" "table|number" "The object IDs to target" "\x7b\x7d",
      paramSet "maxdistance" "number" "Maximum distance to search" "60"]
    "boolean" "True if successful, false otherwise",
  function "DoAction_Tile" "Perform an action on a tile" [
      param "normal_tile" "WPOINT" "The tile coordinates"]
    "boolean" "True if successful, false otherwise",
  function "DoAction_WalkerF" "Walk to a specific tile using float coordinates" [
      param "normal_tile" "FFPOINT" "The tile coordinates as float values"]
    "boolean" "True if successful, false otherwise",
  function "DoAction_WalkerW" "Walk to a specific tile using integer coordinates" [
      param "normal_tile" "WPOINT" "The tile coordinates as integer values"]
    "boolean" "True if successful, false otherwise",
  function "DoAction_TileF" "Click on a tile with float coordinates" [
      param "tile" "FFPOINT" "The tile coordinates"]
    "boolean" "True if successful, false otherwise",
  function "DoAction_NPC__Direct" "Directly interact with an NPC object" [
      param "action" "number" "The action to perform",
      param "offset" "number" "The offset for the action",
      paramSet "npc" "table" "The NPC object to interact with" "\x7b\x7d"]
    "boolean" "True if successful, false otherwise",
  function "DoAction_Object_Direct" "Directly interact with a game object" [
      param "action" "number" "The action to perform",
      param "offset" "number" "The offset for the action",
      paramSet "object" "table" "The object to interact with" "\x7b\x7d"]
    "boolean" "True if successful, false otherwise",
  function "DoAction_Interface" "Interact with an interface element" [
      param "action" "number" "The action to perform",
      paramSet "param1" "number" "Parameter 1" "0",
      paramSet "param2" "number" "Parameter 2" "0",
      param "interfaceId" "number" "The interface ID",
      param "componentId" "number" "The component ID",
      paramSet "subComponentId" "number" "The sub-component ID" "-1",
      param "offset" "number" "The offset for the action"]
    "boolean" "True if successful, false otherwise"]

def bank : List ApiFunction := [
  function "BankOpen2" "Open the bank" [] "boolean" "True if successful, false otherwise",
  function "BankClose" "Close the bank" [] "boolean" "True if successful, false otherwise",
  function "BankAllItems" "Deposit all items in the inventory to the bank" [] "boolean"
    "True if successful, false otherwise",
  function "BankClickItem" "Click on an item in the bank" [
      param "id" "number" "The ID of the item to click",
      paramSet "mouse" "number" "Mouse button (0 for left, 1 for right)" "0"]
    "boolean" "True if successful, false otherwise",
  function "BankGetItemStack" "Get the stack size of an item in the bank" [
      param "item" "number" "The ID of the item"]
    "number" "The stack size of the item"]

def combat : List ApiFunction := [
  function "DoAction_Ability" "Use an ability" [
      param "abilityName" "string" "The name of the ability",
      paramSet "param" "number" "Additional parameter" "1",
      param "offset" "number" "The offset for the action",
      paramSet "useActionBar" "boolean" "Whether to use the action bar" "false"]
    "boolean" "True if successful, false otherwise",
  function "GetABs_name" "Get information about an ability by name" [
      param "abilityName" "string" "The name of the ability"]
    "table" "Information about the ability",
  function "DoAction_BDive_Tile" "Use Bladed Dive ability to a specific tile" [
      param "tile" "WPOINT" "The target tile"]
    "boolean" "True if successful, false otherwise",
  function "CheckAnim" "Check if player is performing a specific animation" [
      paramSet "maxTime" "number" "Maximum time to check" "20",
      paramSet "sleepTime" "number" "Sleep time between checks" "4"]
    "boolean" "True if animation is active, false otherwise"]

/-- Waiting, random numbers, distances and keys. -/
def utility : List ApiFunction := [
  function "Sleep_tick" "Sleep for a specified number of game ticks" [
      paramSet "count" "number" "Number of ticks to sleep" "1"]
    "boolean" "True if successful, false otherwise",
  function "RandomSleep" "Sleep for a random amount of time" [] "void" "No return value",
  function "RandomSleep2" "Sleep for a customizable random amount of time" [
      paramSet "wait" "number" "Base sleep time (100%)" "600",
      paramSet "sleep" "number" "Random sleep addition" "300",
      paramSet "sleep2" "number" "Rare random sleep addition" "100"]
    "void" "No return value",
  function "Math_RandomNumber" "Generate a random number up to the specified maximum" [
      paramSet "numbersize" "number" "Maximum value (exclusive)" "100"]
    "number" "A random number between 0 and numbersize-1",
  function "ReadAllObjectsArray" "Read all objects in the game world" [
      paramSet "types" "table" "Types of objects to read" "\x7b-1\x7d",
      paramSet "ids" "table" "IDs of objects to read" "\x7b-1\x7d",
      paramSet "names" "table" "Names of objects to read" "\x7b\x7d"]
    "table" "Table of all matching objects",
  function "WaitUntilMovingEnds" "Wait until the player stops moving" [
      paramSet "maxTime" "number" "Maximum time to wait" "20",
      paramSet "sleepTime" "number" "Sleep time between checks" "4"]
    "boolean" "True if player stopped moving, false if timed out",
  function "Math_DistanceF" "Calculate distance between two points" [
      param "point1" "FFPOINT" "First point",
      param "point2" "FFPOINT" "Second point"]
    "number" "The distance between the points",
  function "Math_FreeTiles" "Find free tiles around a point" [
      paramSet "points" "table" "Points to avoid" "\x7b\x7d",
      paramSet "radius" "number" "Radius to search" "3",
      paramSet "maxDistance" "number" "Maximum distance to search" "10",
      paramSet "additionalPoints" "table" "Additional points to avoid" "\x7b\x7d"]
    "table" "Table of free tiles",
  function "KeyboardPress31" "Simulate a keyboard press" [
      param "key" "number" "Key code to press",
      paramSet "holdTime" "number" "Time to hold the key (ms)" "100",
      paramSet "delay" "number" "Delay after press (ms)" "500"]
    "void" "No return value",
  function "DoRandomEvents" "Handle random game events" [] "boolean"
    "True if an event was handled",
  function "SystemTime" "Get the current system time in milliseconds" [] "number"
    "Current system time in milliseconds"]

/-- Everything else. -/
def advanced : List ApiFunction := [
  function "CreateIG_answer" "Create an interface element for drawing" [] "table"
    "New interface element",
  function "DrawTextAt" "Draw text on the screen" [
      param "element" "table" "Interface element to draw"]
    "void" "No return value",
  function "DrawListBox" "Draw a list box on the screen" [
      param "element" "table" "Interface element to draw"]
    "void" "No return value",
  function "GatherEvents_chat_check" "Get recent chat messages" [] "table"
    "Table of chat messages",
  function "VB_FindPSett" "Find a player setting by ID" [
      param "settingId" "number" "The setting ID to find"]
    "table" "The player setting",
  function "Compare2874Status" "Compare a specific game status" [
      param "statusId" "number" "The status ID to check",
      paramSet "expectedValue" "boolean" "The expected value" "true"]
    "boolean" "True if status matches expected value",
  function "ScriptRuntimeString" "Get the script runtime as a formatted string" [] "string"
    "The script runtime as a string",
  function "Read_LoopyLoop" "Check if the script should continue running" [] "boolean"
    "True if the script should continue",
  function "Write_LoopyLoop" "Set whether the script should continue running" [
      paramSet "value" "boolean" "Whether to continue running" "true"]
    "void" "No return value"]

end Catalog.Builtin

def Catalog.builtin : Catalog :=
  .ofCategories [
    ⟨"Player", Builtin.player⟩,
    ⟨"Inventory", Builtin.inventory⟩,
    ⟨"Actions", Builtin.actions⟩,
    ⟨"Bank", Builtin.bank⟩,
    ⟨"Combat", Builtin.combat⟩,
    ⟨"Utility", Builtin.utility⟩,
    ⟨"Advanced", Builtin.advanced⟩]

end ScriptComposer
