import Wirechaos.Auth.AttributeProofs
import Wirechaos.Auth.BindingProofs
import Wirechaos.Auth.ExchangeProofs
import Wirechaos.Auth.ScramLink
import Wirechaos.Backend.Certificates
import Wirechaos.Backend.DowngradeProofs
import Wirechaos.Backend.HandshakeProofs
import Wirechaos.Backend.MechanismProofs
import Wirechaos.Backend.NoticeProofs
import Wirechaos.Backend.RegistryProofs
import Wirechaos.Conn.CancelProofs
import Wirechaos.Conn.ChainProofs
import Wirechaos.Conn.DeadlineProofs
import Wirechaos.Conn.FramingProofs
import Wirechaos.Conn.PasswordProofs
import Wirechaos.Conn.PiecesProofs
import Wirechaos.Conn.PromotionProofs
import Wirechaos.Conn.RefusalProofs
import Wirechaos.Conn.ReplayProofs
import Wirechaos.Conn.StaleProofs
import Wirechaos.Credentials.AuthQuery
import Wirechaos.Credentials.ClientSlot
import Wirechaos.Credentials.ForgetRace
import Wirechaos.Credentials.HashPassword
import Wirechaos.Credentials.ReportProofs
import Wirechaos.Credentials.StalenessProofs
import Wirechaos.Lib.Utf8
import Wirechaos.Server.TaskProofs
import Wirechaos.Wire.BufferPool
import Wirechaos.Wire.LayoutProofs
import Wirechaos.Wire.OptionsProofs
import Wirechaos.Wire.PoolMemory
import Wirechaos.Wire.ReaderProofs
