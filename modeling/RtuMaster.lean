import RtuMaster.Python
import RtuMaster.Transport
import RtuMaster.Codec
import RtuMaster.IoBoard
import RtuMaster.RtdBoard
import RtuMaster.ControlLogic
import RtuMaster.Loops
import RtuMaster.RegisterMap
import RtuMaster.Exceptions
import RtuMaster.Session
import RtuMaster.FirmwareUpload
