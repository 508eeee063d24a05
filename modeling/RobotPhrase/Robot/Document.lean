import RobotPhrase.Document
import RobotPhrase.Robot

/-!
# Robots, routines and programs in documents

Every part of a robot and of a program may be left out and then has its default; a routine needs a name.
-/

namespace RobotPhrase

variable {α : Type}

/-- The names of the parts of a robot, in their usual order. -/
def Robot.memberNames : List String := [
  "left_motor_port", "right_motor_port", "wheel_diameter", "axle_track", "speed", "acceleration", "turn_rate",
  "turn_acceleration", "motor_speed", "attachment1_port", "attachment2_port", "color_sensor_port", "ultrasonic_port",
  "force_port"]

def Robot.ofDocument? (f : DocumentFormat α) (v : α) : Option Robot := do
  let ms ← f.members? Robot.memberNames v
  let usual : Robot := { }
  return {
    leftPort := ← ms.orElse "left_motor_port" f.text? usual.leftPort
    rightPort := ← ms.orElse "right_motor_port" f.text? usual.rightPort
    wheelDiameter := ← ms.orElse "wheel_diameter" f.number? usual.wheelDiameter
    axleTrack := ← ms.orElse "axle_track" f.number? usual.axleTrack
    speed := ← ms.orElse "speed" f.number? usual.speed
    acceleration := ← ms.orElse "acceleration" f.number? usual.acceleration
    turnRate := ← ms.orElse "turn_rate" f.number? usual.turnRate
    turnAcceleration := ← ms.orElse "turn_acceleration" f.number? usual.turnAcceleration
    motorSpeed := ← ms.orElse "motor_speed" f.number? usual.motorSpeed
    attachment1 := ← ms.orElse "attachment1_port" f.optionalText? usual.attachment1
    attachment2 := ← ms.orElse "attachment2_port" f.optionalText? usual.attachment2
    colorSensor := ← ms.orElse "color_sensor_port" f.optionalText? usual.colorSensor
    ultrasonicSensor := ← ms.orElse "ultrasonic_port" f.optionalText? usual.ultrasonicSensor
    forceSensor := ← ms.orElse "force_port" f.optionalText? usual.forceSensor }

def Routine.memberNames : List String := ["name", "parameters", "body"]

def Routine.ofDocument? (f : DocumentFormat α) (v : α) : Option Routine := do
  let ms ← f.members? Routine.memberNames v
  return {
    name := ← ms.required "name" f.text?
    parameters := ← ms.orElse "parameters" (f.list? f.text?) []
    body := ← ms.orElse "body" f.text? "" }

def ProgramSpec.memberNames : List String := ["config", "routines", "commands"]

def ProgramSpec.ofDocument? (f : DocumentFormat α) (v : α) : Option ProgramSpec := do
  let ms ← f.members? ProgramSpec.memberNames v
  return {
    robot := ← ms.orElse "config" (Robot.ofDocument? f) { }
    routines := ← ms.orElse "routines" (f.list? (Routine.ofDocument? f)) []
    commands := ← ms.orElse "commands" (f.list? f.text?) [] }

end RobotPhrase
