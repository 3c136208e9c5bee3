import UsbJoystick.Lib.Machine
import UsbJoystick.Lib.Window
import UsbJoystick.Lib.Conduit
import UsbJoystick.Lib.Walk
import UsbJoystick.Lib.Heap
import UsbJoystick.Lib.Simulation
import UsbJoystick.Lib.Records
import UsbJoystick.Lib.Outline
import UsbJoystick.Snake.Defs
import UsbJoystick.Snake.Main
import UsbJoystick.Snake.Cells
import UsbJoystick.Snake.Control
import UsbJoystick.Snake.Turns
import UsbJoystick.Snake.Helm
import UsbJoystick.Snake.Trail
import UsbJoystick.Snake.Memory
import UsbJoystick.Snake.Shape
import UsbJoystick.Snake.Overlap
import UsbJoystick.Snake.Verdict
import UsbJoystick.Snake.Joystick
import UsbJoystick.Snake.Apart
import UsbJoystick.Snake.Bonus
import UsbJoystick.Snake.Spawn
import UsbJoystick.Snake.Screen
import UsbJoystick.Snake.Walls
import UsbJoystick.Snake.Display
import UsbJoystick.Snake.Menus
import UsbJoystick.Snake.Replay
import UsbJoystick.Pad.Arduino
import UsbJoystick.Pad.Relay
import UsbJoystick.Pad.Chain
import UsbJoystick.Pad.Led
import UsbJoystick.Host.Endpoints
import UsbJoystick.Host.Init
import UsbJoystick.Usb.Stream
import UsbJoystick.Usb.Descriptors
import UsbJoystick.Pad.Firmware
import UsbJoystick.Pad.Reports
import UsbJoystick.Pad.Delivery
import UsbJoystick.Pad.Commands
import UsbJoystick.Pad.Refine
import UsbJoystick.System.Defs
import UsbJoystick.System.Keys
import UsbJoystick.System.Lamp
