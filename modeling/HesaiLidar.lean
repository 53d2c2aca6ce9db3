import HesaiLidar.Calibration.AzimuthRange
import HesaiLidar.Calibration.CorrectionPacket
import HesaiLidar.Calibration.CorrectionSources
import HesaiLidar.Calibration.FaithfulLoad
import HesaiLidar.Client.EndToEnd
import HesaiLidar.Client.FrameDelivery
import HesaiLidar.Client.Publication
import HesaiLidar.Client.Shutdown
import HesaiLidar.Client.TcpCommand
import HesaiLidar.Defenses.ConsecutiveRun
import HesaiLidar.Defenses.PacketNumbers
import HesaiLidar.Driver.Conservation
import HesaiLidar.Driver.FrameTransforms
import HesaiLidar.Driver.FreshSessions
import HesaiLidar.Driver.Freshness
import HesaiLidar.Driver.GpsTime
import HesaiLidar.Driver.GuardHistory
import HesaiLidar.Driver.Joins
import HesaiLidar.Driver.PcapPacing
import HesaiLidar.Driver.PointModes
import HesaiLidar.Driver.Recordings
import HesaiLidar.Driver.Replay
import HesaiLidar.Driver.Rotation
import HesaiLidar.Driver.ScanReplay
import HesaiLidar.Driver.SensorTime
import HesaiLidar.Driver.SentPoints
import HesaiLidar.Driver.Sessions
import HesaiLidar.Driver.Survival
import HesaiLidar.Driver.TableAccesses
