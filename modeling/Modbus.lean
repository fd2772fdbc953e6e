import Modbus.Basic
import Modbus.Crc
import Modbus.Frame
import Modbus.Receive
import Modbus.Master
import Modbus.Server
import Modbus.RoundTrip
import Modbus.Bits
import Modbus.Session
import Modbus.Framing
