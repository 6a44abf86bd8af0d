import VdiWrapper.Lib.Path
import VdiWrapper.Lib.Loop
import VdiWrapper.Lib.Throttle
import VdiWrapper.Lib.Ledger
import VdiWrapper.Lib.Holding
import VdiWrapper.Lib.Coupling
import VdiWrapper.Lib.Custody
import VdiWrapper.Lib.OrderStatistic
import VdiWrapper.Lib.Json
import VdiWrapper.Lib.JsonParser
import VdiWrapper.Lib.Utf8
import VdiWrapper.Lib.JsonUtf8
import VdiWrapper.Lib.Regex
import VdiWrapper.Lib.Interleaving
import VdiWrapper.Protocol
import VdiWrapper.Instruments
import VdiWrapper.AtomicMetrics
import VdiWrapper.Sink
import VdiWrapper.FileSink
import VdiWrapper.FileStream
import VdiWrapper.Machine
import VdiWrapper.Client
import VdiWrapper.ProcessCommands
import VdiWrapper.Execution
import VdiWrapper.Iteration
import VdiWrapper.CommandRun
import VdiWrapper.Completion
import VdiWrapper.Acknowledgement
import VdiWrapper.Session
import VdiWrapper.Lifecycle
import VdiWrapper.Scripted
import VdiWrapper.FailStop
import VdiWrapper.Accounting
import VdiWrapper.MetricsLedger
import VdiWrapper.Ticks
import VdiWrapper.StallDetection
import VdiWrapper.Shutdown
import VdiWrapper.Draining
import VdiWrapper.DeviceSetLife
import VdiWrapper.DeviceLife
import VdiWrapper.ComLifetime
import VdiWrapper.FileRun
import VdiWrapper.SinkBounds
import VdiWrapper.DataLoss
import VdiWrapper.Program
import VdiWrapper.ProgramRun
import VdiWrapper.ProgramLife
import VdiWrapper.ProgramFile
import VdiWrapper.ProgramServing
import VdiWrapper.ProgramBackup
import VdiWrapper.FlushBarrier
import VdiWrapper.BareLoop
import VdiWrapper.LoopCoupling
import VdiWrapper.SessionCoupling
import VdiWrapper.SinkChoice
import VdiWrapper.ProgramAgreement
import VdiWrapper.HandBack
import VdiWrapper.PyClient
import VdiWrapper.PyProgram
import VdiWrapper.PyProgramLife
import VdiWrapper.PySimulation
import VdiWrapper.BufferExclusion
import VdiWrapper.Percentile
import VdiWrapper.QpcTimer
import VdiWrapper.ComBalance
import VdiWrapper.TimingRecords
import VdiWrapper.TimingTiles
import VdiWrapper.FaultCut
import VdiWrapper.FaultHarness
import VdiWrapper.MetricsJson
import VdiWrapper.EnvironmentJson
import VdiWrapper.MetricsExtraction
import VdiWrapper.DeviceName
